import ConfigCoverage.Python.Grammar.Expressions

/-!
# Patterns of `match`

The analysis does not look into patterns: the rules only tell them from other texts.
-/

namespace ConfigCoverage.Python

open Peg

/-- A name with the names it is in. -/
def dottedName : Syn := .sepBy1 identifier (op ".")

/-- A number, or the sum of a real and an imaginary one. -/
def numberPattern : Syn :=
  let signed := .seq (opt (op "-")) (.terminal .number)
  .seq signed (opt (.seq (.alt (op "+") (op "-")) signed))

/-- A literal that the subject is compared with. -/
def literalPattern : Syn := oneOf [numberPattern, .terminal .strings, kw "None", kw "True", kw "False"]

/-- A pattern for dictionaries. The rest of the entries comes last. -/
def mappingPattern : Syn :=
  let key := .alt literalPattern (.seq identifier (.some (.seq (op ".") identifier)))
  let entry := .all [key, colon, .rule .pattern]
  let rest := .seq (op "**") identifier
  inBraces (opt (oneOf
    [.seq rest (opt comma),
     .all [.sepBy1 entry comma, opt (.seq comma rest), opt comma]]))

/-- The arguments of a class: patterns by position, then by name. -/
def classArguments : Syn :=
  let named := .all [identifier, op "=", .rule .pattern]
  let positional := .seq (.absent (.seq identifier (op "="))) (.rule .pattern)
  inParens (opt (oneOf
    [.all [.sepBy1 positional comma, .star (.seq comma named), opt comma],
     commaList named]))

/-- A pattern that holds together without parentheses. -/
def closedPattern : Syn :=
  oneOf
    [literalPattern,
     .seq (op "*") identifier,
     .seq dottedName (opt classArguments),
     inParens (opt (commaList (.rule .pattern))),
     inBrackets (opt (commaList (.rule .pattern))),
     mappingPattern]

/-- The name after `as` is no wildcard. -/
def patternRule : Syn :=
  let rename := .build (fun ps => if namesOf ps = ["_"] then none else some ps) (.seq (kw "as") identifier)
  part (fun _ _ => .token) (.seq (.sepBy1 closedPattern (op "|")) (opt rename))

end ConfigCoverage.Python
