import ConfigCoverage.Java.Grammar.Statements

/-!
# Declarations

Types, their members, and the declarations of a compilation unit. A source file is a row of statements and methods.
-/

namespace ConfigCoverage.Java

open Peg

/-! ## Methods -/

/-- The object of a method among its parameters, which is there for its annotations. -/
def receiverParameter : Syn :=
  node .other (.all [annotations, .rule .plainType, .star (.seq (name .member) (sym ".")), word "this"])

/-- A parameter; the last may take any number of arguments. -/
def formalParameter : Syn :=
  node .other <| .seq modifiersOpt <| .seq (.rule .plainType) <|
    .alt (.all [sym "...", annotations, .rule .variableDeclarator]) declaratorId

/-- The parameters of a method or of a record. -/
def formalParametersRule : Syn :=
  node .other <| inParens <|
    .alt (.seq receiverParameter (.star (.seq (sym ",") formalParameter))) (sepBy formalParameter (sym ","))

/-- The exceptions that a method may throw. -/
def throwsClause : Syn := node .other (.seq (word "throws") (sepBy1 (.rule .type) (sym ",")))

/-- Refuse what starts the declaration of a type. -/
def noMemberWord : Syn := .absent (.terminal (.anyWord (["class", "interface", "enum", "record"] ++ modifierWords)))

/-- A method, with its body if it has one. -/
def methodDeclarationRule : Syn :=
  node .methodDeclaration (.all [modifiersOpt, noMemberWord, opt (.seq (.rule .typeParameters) annotations),
    label .type (.rule .plainType), label .name (name .declared), .rule .formalParameters, opt (.rule .dimensions),
    opt throwsClause, .alt (label .body (.rule .block)) (sym ";")])

/-- The call of another constructor. -/
def constructorCall : Syn :=
  .all [.alt (.seq (opt (.rule .typeArguments)) (.alt (word "this") (word "super")))
      (.all [.rule .primary, sym ".", opt (.rule .typeArguments), word "super"]),
    .rule .arguments, sym ";"]

/-- The body of a constructor, where the call of another one comes first. -/
def constructorBody : Syn := node .other (inBraces (.seq (opt (node .other constructorCall)) (.star (.rule .statement))))

/-- A constructor. It is no method to the analysis. -/
def constructorDeclaration : Syn :=
  node .other (.all [modifiersOpt, noMemberWord, opt (.rule .typeParameters), name .type, .rule .formalParameters,
    opt throwsClause, constructorBody])

/-- A constructor of a record that takes its parameters over. -/
def compactConstructor : Syn := node .other (.all [modifiersOpt, noMemberWord, name .type, .rule .block])

/-! ## Members -/

/-- A declaration of fields. -/
def fieldDeclaration : Syn :=
  node .other (.all [modifiersOpt, noMemberWord, .rule .plainType, declarators, sym ";"])

/-- What is run when a class is loaded. -/
def staticInitializer : Syn := node .other (.seq (word "static") (.rule .block))

/-- A member of a class. A constructor comes before a method, which has a type more. -/
def classMemberRule : Syn :=
  oneOf [sym ";", .rule .block, staticInitializer, .rule .typeDeclaration, constructorDeclaration, compactConstructor,
    .rule .methodDeclaration, fieldDeclaration]

/-- The body of a class or of a record. -/
def classBodyRule : Syn := node .classBody (inBraces (.star (.rule .classMember)))

/-- The body of an interface. -/
def interfaceBodyRule : Syn :=
  node .interfaceBody <| inBraces <| .star <|
    oneOf [sym ";", .rule .typeDeclaration, .rule .methodDeclaration, fieldDeclaration]

/-- An element of an annotation type, perhaps with a default. -/
def annotationElement : Syn :=
  node .other (.all [modifiersOpt, noMemberWord, .rule .plainType, name .declared, sym "(", sym ")",
    opt (.rule .dimensions), opt (.seq (word "default") (.rule .elementValue)), sym ";"])

/-- The body of an annotation type, in which the analysis finds no methods. -/
def annotationBodyRule : Syn :=
  node .other <| inBraces <| .star <| oneOf [.rule .typeDeclaration, annotationElement, fieldDeclaration]

/-- A constant, perhaps with arguments and with a body of its own. -/
def enumConstant : Syn :=
  node .other (.all [modifiersOpt, name .free, opt (.rule .arguments), opt (.rule .classBody)])

/-- The body of an enumeration: constants, and members after a semicolon. -/
def enumBodyRule : Syn :=
  node .enumBody <| inBraces <|
    .seq (sepByTrailing enumConstant (sym ","))
      (opt (node .enumBodyDeclarations (.seq (sym ";") (.star (.rule .classMember)))))

/-! ## Types -/

/-- Types between commas. -/
def typeList : Syn := sepBy1 (.rule .type) (sym ",")

/-- The class above. -/
def extendsClause : Syn := opt (node .other (.seq (word "extends") (.rule .type)))

/-- The interfaces above an interface. -/
def extendsList : Syn := opt (node .other (.seq (word "extends") typeList))

/-- The interfaces that a class implements. -/
def implementsList : Syn := opt (node .other (.seq (word "implements") typeList))

/-- The classes that may extend a sealed one. -/
def permitsList : Syn := opt (node .other (.seq (word "permits") typeList))

/-- The name of a type that is declared. -/
def typeName : Syn := label .name (name .free)

/-- A class. -/
def classDeclaration : Syn :=
  node .classDeclaration (.all [modifiersOpt, word "class", typeName, opt (.rule .typeParameters), extendsClause,
    implementsList, permitsList, label .body (.rule .classBody)])

/-- An interface. -/
def interfaceDeclaration : Syn :=
  node .interfaceDeclaration (.all [modifiersOpt, word "interface", typeName, opt (.rule .typeParameters), extendsList,
    permitsList, label .body (.rule .interfaceBody)])

/-- An enumeration. -/
def enumDeclaration : Syn :=
  node .enumDeclaration (.all [modifiersOpt, word "enum", typeName, implementsList, label .body (.rule .enumBody)])

/-- A record. -/
def recordDeclaration : Syn :=
  node .recordDeclaration (.all [modifiersOpt, word "record", typeName, opt (.rule .typeParameters),
    .rule .formalParameters, implementsList, label .body (.rule .classBody)])

/-- An annotation type. -/
def annotationDeclaration : Syn :=
  node .other (.all [modifiersOpt, sym "@interface", typeName, .rule .annotationBody])

/-- The declarations of types come after the keyword that tells them apart. -/
def typeDeclarationRule : Syn :=
  oneOf [classDeclaration, interfaceDeclaration, enumDeclaration, recordDeclaration, annotationDeclaration]

/-! ## Compilation units -/

/-- An import of a class, of its static members, or of all of a package. -/
def importDeclaration : Syn :=
  node .other (.all [word "import", opt (word "static"), .rule .qualifiedName, opt (.seq (sym ".") (sym "*")), sym ";"])

/-- The package of a file. -/
def packageDeclaration : Syn := node .other (.all [annotations, word "package", .rule .qualifiedName, sym ";"])

/-- Names of modules between commas. -/
def names : Syn := sepBy1 (.rule .qualifiedName) (sym ",")

/-- What a module needs or offers. -/
def moduleDirective : Syn :=
  oneOf [
    .all [word "requires", .star (.alt (word "transitive") (word "static")), .rule .qualifiedName, sym ";"],
    .all [.alt (word "exports") (word "opens"), .rule .qualifiedName, opt (.seq (word "to") names), sym ";"],
    .all [word "uses", .rule .qualifiedName, sym ";"],
    .all [word "provides", .rule .qualifiedName, word "with", names, sym ";"]]

/-- A module. -/
def moduleDeclaration : Syn :=
  node .other (.all [annotations, opt (word "open"), word "module", .rule .qualifiedName,
    inBraces (.star moduleDirective)])

/-- A declaration about the file and not of a type. -/
def unitDeclarationRule : Syn := oneOf [importDeclaration, packageDeclaration, moduleDeclaration]

/-- What a file is made of. -/
def topLevelRule : Syn := .alt (.rule .methodDeclaration) (.rule .statement)

/-- A source file, to its end. -/
def programRule : Syn := .seq (.star (.rule .topLevel)) (.terminal .endOfSource)

end ConfigCoverage.Java
