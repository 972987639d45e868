import ConfigCoverage.Java.Grammar.Basic

/-!
# Types, annotations and modifiers

Of a type only its text counts, so its parts have no kinds of their own.
-/

namespace ConfigCoverage.Java

open Peg

/-- Annotations, where modifiers cannot stand. -/
def annotations : Syn := .star (.rule .marker)

/-- A name with its type arguments. -/
def typeSegment (place : NamePlace) : Syn := .seq (name place) (opt (.rule .typeArguments))

/-- A primitive type, or a class with the classes and packages it is in. -/
def simpleTypeRule : Syn :=
  node .other <| .alt (.terminal (.anyWord primitiveTypes))
    (.seq (typeSegment .type) (.star (.all [sym ".", annotations, typeSegment .member])))

/-- A type without annotations before it. -/
def plainTypeRule : Syn := node .other (.seq (.rule .simpleType) (opt (.rule .dimensions)))

/-- A type with its annotations. -/
def typeRule : Syn := node .other (.seq annotations (.rule .plainType))

/-- A type argument that is not told, perhaps with a bound. -/
def wildcard : Syn :=
  .all [annotations, sym "?", opt (.seq (.alt (word "extends") (word "super")) (.rule .type))]

/-- Type arguments in angle brackets, or none between them, as a constructor may have it. -/
def typeArgumentsRule : Syn :=
  node .other (.all [sym "<", sepBy (.alt wildcard (.rule .type)) (sym ","), sym ">"])

/-- A type variable with its bounds. -/
def typeParameter : Syn :=
  .all [annotations, name .free, opt (.seq (word "extends") (sepBy1 (.rule .type) (sym "&")))]

/-- The type variables of a generic declaration. -/
def typeParametersRule : Syn := node .other (.all [sym "<", sepBy1 typeParameter (sym ","), sym ">"])

/-- The brackets after the type or the name of an array. -/
def dimensionsRule : Syn := node .other (Peg.some (.all [annotations, sym "[", sym "]"]))

/-- The name of a package, of a class in it, or of an annotation. -/
def qualifiedNameRule : Syn :=
  collapse (.seq (name .imported) (.star (.seq (sym ".") (name .free))))

/-- An element of an annotation with its value. -/
def elementValuePair : Syn := node .other (.all [name .free, sym "=", .rule .elementValue])

/-- What an element of an annotation can be set to: another annotation, a list, or an expression. -/
def elementValueRule : Syn :=
  oneOf [.rule .marker, node .other (inBraces (sepByTrailing (.rule .elementValue) (sym ","))), .rule .expression]

/-- The arguments of an annotation: elements by name, the value of the only one, or nothing. -/
def annotationArguments : Syn :=
  node .other <| inParens <| oneOf
    [.seq (.ahead (.seq (name .free) (sym "="))) (sepBy1 elementValuePair (sym ",")), .rule .elementValue, .empty]

/-- An annotation. It is told apart by its kind if arguments follow the name. -/
def annotationRule : Syn :=
  .alt (node .argumentMarker (.all [sym "@", label .name (.rule .qualifiedName), annotationArguments]))
    (node .simpleMarker (.seq (sym "@") (label .name (.rule .qualifiedName))))

/-- The words that are modifiers and nothing else. -/
def modifierWords : List String :=
  ["public", "protected", "private", "abstract", "static", "final", "strictfp", "default", "synchronized", "native",
    "transient", "volatile"]

/-- A modifier. One of them is three tokens with nothing between. -/
def modifier : Syn :=
  oneOf [.rule .marker, .terminal (.anyWord modifierWords), word "sealed",
    .all [word "non", joined "-", .terminal (.joinedWord "sealed")]]

/-- The modifiers of a declaration, annotations among them. -/
def modifiersRule : Syn := node .modifiers (Peg.some modifier)

end ConfigCoverage.Java
