import ConfigCoverage.Json.Value
import ConfigCoverage.Text.Digit
import ConfigCoverage.Text.Encoding

/-!
# Reading JSON

The text is cut into tokens first, which drops the blanks; the tokens are then put together.

* `parse?`: the value that a text writes.
-/

namespace ConfigCoverage.Json

/-- The tokens of JSON. -/
inductive Token where
  /-- A bracket, a brace, a comma or a colon. -/
  | mark (c : Char)
  | null
  | bool (b : Bool)
  | number (text : String)
  /-- A string; there is no text where half of a surrogate pair stands in it. -/
  | string (text : Option String)
deriving DecidableEq, Repr

/-! ## Strings -/

/-- The character that a letter after a backslash stands for. -/
def escaped? (c : Char) : Option Char :=
  match c with
  | '"' => some '"'
  | '\\' => some '\\'
  | '/' => some '/'
  | 'b' => some '\x08'
  | 'f' => some '\x0c'
  | 'n' => some '\n'
  | 'r' => some '\r'
  | 't' => some '\t'
  | _ => none

/-- A piece of a string: a character, or a unit of sixteen bits that was written by its number. -/
inductive Piece where
  | char (c : Char)
  | unit (n : Nat)

/-- The pieces of a string up to its closing quote, and what is left. -/
def pieces? : List Char → Option (List Piece × List Char)
  | [] => none
  | '"' :: rest => some ([], rest)
  | '\\' :: 'u' :: a :: b :: c :: d :: rest =>
    match hexNumber? [a, b, c, d], pieces? rest with
    | some n, some (ps, rest) => some (.unit n :: ps, rest)
    | _, _ => none
  | '\\' :: c :: rest =>
    match escaped? c, pieces? rest with
    | some c, some (ps, rest) => some (.char c :: ps, rest)
    | _, _ => none
  | c :: rest =>
    if c.toNat < 32 ∨ c = '\\' then none
    else
      match pieces? rest with
      | some (ps, rest) => some (.char c :: ps, rest)
      | none => none

/-- The text of pieces: a pair of surrogates is one character, and half of a pair is none. -/
def joinPieces? : List Piece → Option (List Char)
  | [] => some []
  | .char c :: ps => (joinPieces? ps).map (c :: ·)
  | .unit n :: .unit m :: ps =>
    if Encoding.isHighSurrogate n then
      if Encoding.isLowSurrogate m then (joinPieces? ps).map (Encoding.pairChar n m :: ·) else none
    else if Encoding.isLowSurrogate n then none
    else (joinPieces? (.unit m :: ps)).map (Char.ofNat n :: ·)
  | .unit n :: ps =>
    if Encoding.isHighSurrogate n || Encoding.isLowSurrogate n then none
    else (joinPieces? ps).map (Char.ofNat n :: ·)

/-! ## Numbers -/

/-- Digits, at least one. -/
def digits? (cs : List Char) : Option (List Char × List Char) :=
  let digits := cs.takeWhile Char.isDigit
  if digits.isEmpty then none else some (digits, cs.drop digits.length)

/-- A whole number without needless zeros. -/
def whole? (cs : List Char) : Option (List Char × List Char) :=
  match cs with
  | '0' :: rest => some (['0'], rest)
  | _ => digits? cs

/-- A point and digits, or nothing. -/
def fraction? (cs : List Char) : Option (List Char × List Char) :=
  match cs with
  | '.' :: rest => (digits? rest).map fun (ds, rest) => ('.' :: ds, rest)
  | _ => some ([], cs)

/-- An exponent, or nothing. -/
def exponent? (cs : List Char) : Option (List Char × List Char) :=
  match cs with
  | e :: rest =>
    if e == 'e' || e == 'E' then
      match rest with
      | s :: more =>
        if s == '+' || s == '-' then (digits? more).map fun (ds, rest) => (e :: s :: ds, rest)
        else (digits? rest).map fun (ds, rest) => (e :: ds, rest)
      | [] => none
    else some ([], cs)
  | [] => some ([], cs)

/-- A number at the front. -/
def number? (cs : List Char) : Option (String × List Char) :=
  let (sign, cs) := match cs with
    | '-' :: rest => (['-'], rest)
    | _ => ([], cs)
  match whole? cs with
  | none => none
  | some (whole, cs) =>
    match fraction? cs with
    | none => none
    | some (frac, cs) =>
      match exponent? cs with
      | none => none
      | some (exp, cs) => some (String.ofList (sign ++ whole ++ frac ++ exp), cs)

/-! ## Tokens -/

/-- The characters between tokens. -/
def isJsonBlank (c : Char) : Bool := c == ' ' || c == '\n' || c == '\t' || c == '\r'

/-- The characters that are tokens by themselves. -/
def isMark (c : Char) : Bool := c == '[' || c == ']' || c == '\x7b' || c == '\x7d' || c == ',' || c == ':'

/-- The token at the front of a text that does not start with a blank. -/
def token? (cs : List Char) : Option (Token × List Char) :=
  match cs with
  | [] => none
  | '"' :: rest => (pieces? rest).map fun (ps, rest) => (.string ((joinPieces? ps).map String.ofList), rest)
  | 'n' :: 'u' :: 'l' :: 'l' :: rest => some (.null, rest)
  | 't' :: 'r' :: 'u' :: 'e' :: rest => some (.bool true, rest)
  | 'f' :: 'a' :: 'l' :: 's' :: 'e' :: rest => some (.bool false, rest)
  | c :: rest => if isMark c then some (.mark c, rest) else (number? cs).map fun (n, rest) => (.number n, rest)

/-- The tokens of a text; each step takes a character at least. -/
def tokens? : Nat → List Char → Option (List Token)
  | _, [] => some []
  | 0, _ :: _ => none
  | fuel + 1, c :: cs =>
    if isJsonBlank c then tokens? fuel cs
    else
      match token? (c :: cs) with
      | none => none
      | some (t, rest) => (tokens? fuel rest).map (t :: ·)

/-! ## Values -/

/-- The object of some fields; a key without a text breaks it. -/
def objectOf (fields : List (Option String × Value)) : Value :=
  if fields.all fun f => f.1.isSome then .object (fields.map fun f => (f.1.getD "", f.2)) else .broken

mutual

/-- The value at the front of the tokens; each step takes a token. -/
def value? : Nat → List Token → Option (Value × List Token)
  | 0, _ => none
  | fuel + 1, ts =>
    match ts with
    | .null :: rest => some (.null, rest)
    | .bool b :: rest => some (.bool b, rest)
    | .number n :: rest => some (.number n, rest)
    | .string (some s) :: rest => some (.string s, rest)
    | .string none :: rest => some (.broken, rest)
    | .mark '[' :: .mark ']' :: rest => some (.array [], rest)
    | .mark '[' :: rest => (items? fuel rest).map fun (vs, rest) => (.array vs, rest)
    | .mark '\x7b' :: .mark '\x7d' :: rest => some (.object [], rest)
    | .mark '\x7b' :: rest => (fields? fuel rest).map fun (fs, rest) => (objectOf fs, rest)
    | _ => none

/-- Items up to the closing bracket. -/
def items? : Nat → List Token → Option (List Value × List Token)
  | 0, _ => none
  | fuel + 1, ts =>
    match value? fuel ts with
    | some (v, .mark ']' :: rest) => some ([v], rest)
    | some (v, .mark ',' :: rest) => (items? fuel rest).map fun (vs, rest) => (v :: vs, rest)
    | _ => none

/-- Fields up to the closing brace. -/
def fields? : Nat → List Token → Option (List (Option String × Value) × List Token)
  | 0, _ => none
  | fuel + 1, ts =>
    match ts with
    | .string key :: .mark ':' :: rest =>
      match value? fuel rest with
      | some (v, .mark '\x7d' :: rest) => some ([(key, v)], rest)
      | some (v, .mark ',' :: rest) => (fields? fuel rest).map fun (fs, rest) => ((key, v) :: fs, rest)
      | _ => none
    | _ => none

end

/-- The value that a text writes. A value needs two steps for a token at most. -/
def parse? (text : String) : Option Value :=
  match tokens? text.length text.toList with
  | none => none
  | some ts =>
    match value? (2 * ts.length + 1) ts with
    | some (v, []) => some v
    | _ => none

end ConfigCoverage.Json
