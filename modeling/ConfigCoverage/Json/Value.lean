/-!
# JSON values

* `Value.compact`, `Value.pretty`: the two ways to write a value.
-/

namespace ConfigCoverage.Json

/-- A JSON value. Fields are kept in the order of the text, repeated ones too. -/
inductive Value where
  | null
  | bool (b : Bool)
  /-- A number as it is written. -/
  | number (text : String)
  | string (text : String)
  | array (items : List Value)
  | object (fields : List (String × Value))
  /-- A string, or an object with a key, that holds half of a surrogate pair: well written, and no value of any kind. -/
  | broken
deriving Repr, Inhabited

/-- A count as a value. -/
def Value.ofNat (n : Nat) : Value := .number (toString n)

/-- Texts as a value. -/
def Value.ofStrings (texts : List String) : Value := .array (texts.map .string)

/-! ## Writing -/

/-- A hexadecimal digit in lower case. -/
def hexDigit (n : Nat) : Char := if n < 10 then Char.ofNat (n + 48) else Char.ofNat (n + 87)

/-- How a character is written inside a string. -/
def escapeChar (c : Char) : List Char :=
  if c = '"' then ['\\', '"']
  else if c = '\\' then ['\\', '\\']
  else if c = '\x08' then ['\\', 'b']
  else if c = '\t' then ['\\', 't']
  else if c = '\n' then ['\\', 'n']
  else if c = '\x0c' then ['\\', 'f']
  else if c = '\r' then ['\\', 'r']
  else if c.toNat < 32 then ['\\', 'u', '0', '0', hexDigit (c.toNat / 16), hexDigit (c.toNat % 16)]
  else [c]

/-- A text in quotes. -/
def quote (text : String) : List Char := '"' :: text.toList.flatMap escapeChar ++ ['"']

/-- How a value without parts is written. -/
def writeLeaf : Value → List Char
  | .null => "null".toList
  | .bool b => (if b then "true" else "false").toList
  | .number text => text.toList
  | .string text => quote text
  | _ => "null".toList

mutual

/-- A value without blanks. -/
def writeCompact : Value → List Char
  | .array items => '[' :: writeCompactItems true items ++ [']']
  | .object fields => '\x7b' :: writeCompactFields true fields ++ ['\x7d']
  | v => writeLeaf v

/-- Items with a comma before each but the first. -/
def writeCompactItems : Bool → List Value → List Char
  | _, [] => []
  | first, v :: vs => (if first then [] else [',']) ++ writeCompact v ++ writeCompactItems false vs

/-- Fields with a comma before each but the first. -/
def writeCompactFields : Bool → List (String × Value) → List Char
  | _, [] => []
  | first, (k, v) :: fs =>
    (if first then [] else [',']) ++ quote k ++ ':' :: writeCompact v ++ writeCompactFields false fs

end

/-- A line break and the indentation of the next line. -/
def lineBreak (depth : Nat) : List Char := '\n' :: List.replicate (2 * depth) ' '

mutual

/-- A value with one item or field a line, two blanks further in at each depth. -/
def writePretty (depth : Nat) : Value → List Char
  | .array [] => ['[', ']']
  | .array (v :: vs) => '[' :: writePrettyItems (depth + 1) true (v :: vs) ++ lineBreak depth ++ [']']
  | .object [] => ['\x7b', '\x7d']
  | .object (f :: fs) => '\x7b' :: writePrettyFields (depth + 1) true (f :: fs) ++ lineBreak depth ++ ['\x7d']
  | v => writeLeaf v

/-- Items on lines of their own. -/
def writePrettyItems (depth : Nat) : Bool → List Value → List Char
  | _, [] => []
  | first, v :: vs =>
    (if first then [] else [',']) ++ lineBreak depth ++ writePretty depth v ++ writePrettyItems depth false vs

/-- Fields on lines of their own. -/
def writePrettyFields (depth : Nat) : Bool → List (String × Value) → List Char
  | _, [] => []
  | first, (k, v) :: fs =>
    (if first then [] else [',']) ++ lineBreak depth ++ quote k ++ ':' :: ' ' :: writePretty depth v ++
      writePrettyFields depth false fs

end

/-- The text of a value on one line. -/
def Value.compact (v : Value) : String := String.ofList (writeCompact v)

/-- The text of a value on indented lines. -/
def Value.pretty (v : Value) : String := String.ofList (writePretty 0 v)

end ConfigCoverage.Json
