import ConfigCoverage.Python.Token
import ConfigCoverage.Text.Blank
import ConfigCoverage.Text.CharName

/-!
# Python string literals

* `stringValue?`: the text that a string literal stands for, escapes read.
* `fields?`: the source texts of the expressions inside a formatted string.
-/

namespace ConfigCoverage.Python

/-- The character of a number; half of a surrogate pair stands for a replacement character. -/
def scalar? (n : Nat) : Option Char :=
  if 0xD800 ≤ n ∧ n ≤ 0xDFFF then some '�'
  else if n < 0x110000 then some (Char.ofNat n)
  else none

/-- An escape of `n` hexadecimal digits. -/
def hexEscape? (n : Nat) (cs : List Char) : Option (List Char × List Char) :=
  if (cs.take n).length < n then none
  else ((hexNumber? (cs.take n)).bind scalar?).map fun c => ([c], cs.drop n)

/-- Names of characters are no longer than this in bytes. -/
def longestCharName : Nat := 88

/-- An escape by the name of a character, in braces. -/
def namedEscape? (cs : List Char) : Option (List Char × List Char) :=
  match cs with
  | '\x7b' :: cs =>
    let name := String.ofList (cs.takeWhile (· != '\x7d'))
    match cs.dropWhile (· != '\x7d') with
    | _ :: rest => if name.utf8ByteSize > longestCharName then none else (charNamed? name).map fun c => ([c], rest)
    | [] => none
  | _ => none

/-- An escape of one to three octal digits. -/
def octalEscape (d : Char) (cs : List Char) : List Char × List Char :=
  let more := (cs.take 2).takeWhile (isDigitOf 8)
  ([Char.ofNat ((d :: more).foldl (fun n c => 8 * n + (c.toNat - 48)) 0)], cs.drop more.length)

/-- The text of an escape, given what follows the backslash, and what is left. An unknown escape stays as written. -/
def escape? (isBytes : Bool) (cs : List Char) : Option (List Char × List Char) :=
  match cs with
  | [] => none
  | c :: rest =>
    let plain := fun (d : Char) => some ([d], rest)
    let unknown := if isBytes && c.toNat ≥ 128 then none else some (['\\', c], rest)
    match c with
    | '\\' => plain '\\'
    | '\'' => plain '\''
    | '"' => plain '"'
    | 'a' => plain '\x07'
    | 'b' => plain '\x08'
    | 'f' => plain '\x0c'
    | 'n' => plain '\n'
    | 'r' => plain '\r'
    | 't' => plain '\t'
    | 'v' => plain '\x0b'
    | '\n' => some ([], rest)
    | 'x' => hexEscape? 2 rest
    | 'u' => if isBytes then unknown else hexEscape? 4 rest
    | 'U' => if isBytes then unknown else hexEscape? 8 rest
    | 'N' => if isBytes then unknown else namedEscape? rest
    | _ => if isDigitOf 8 c then some (octalEscape c rest) else unknown

/-- Read the escapes of a text. An escape takes a character at least, so the length of the text is fuel enough. -/
def unescape? (isBytes : Bool) : Nat → List Char → Option (List Char)
  | _, [] => some []
  | 0, _ :: _ => none
  | fuel + 1, c :: cs =>
    if c == '\\' then
      match escape? isBytes cs with
      | none => none
      | some (text, rest) => (unescape? isBytes fuel rest).map (text ++ ·)
    else if isBytes && c.toNat ≥ 128 then none
    else (unescape? isBytes fuel cs).map (c :: ·)

/-- What a string without embedded expressions stands for. Bytes are ASCII only. -/
def stringValue? (kind : StringKind) (contents : List Char) : Option (List Char) :=
  if kind.isRaw then
    if kind.isBytes && contents.any (·.toNat ≥ 128) then none else some contents
  else unescape? kind.isBytes contents.length contents

/-! ## Formatted strings -/

/-- An embedded expression as far as it was read. -/
structure Field where
  /-- Its source, last character first. -/
  source : List Char
  /-- The open brackets, last first. -/
  brackets : List Char
  /-- An equals sign at the end asks for the source to be shown. -/
  isShown : Bool
  /-- The expressions inside its format. -/
  inner : List (List Char)

/-- Add to the source. -/
def Field.push (f : Field) (cs : List Char) : Field := { f with source := cs.reverse ++ f.source }

/-- Close a bracket that was opened by `opening`. -/
def Field.close? (f : Field) (opening closing : Char) : Option Field :=
  match f.brackets with
  | b :: bs => if b == opening then some { f.push [closing] with brackets := bs } else none
  | [] => none

mutual

/-- The expressions in a formatted text, and what is left. `nested` counts the formats around it; the text inside a
format ends before a closing brace. -/
def fieldsOfText (isRaw : Bool) : Nat → Nat → List Char → Option (List (List Char) × List Char)
  | 0, _, _ => none
  | fuel + 1, nested, cs =>
    if nested ≥ 2 then none
    else
      match cs with
      | [] => some ([], [])
      | c :: rest =>
        if c == '\x7b' then
          if nested = 0 ∧ rest.head? = some '\x7b' then fieldsOfText isRaw fuel nested rest.tail
          else
            match fieldsOfField isRaw fuel nested ⟨[], [], false, []⟩ rest with
            | none => none
            | some (fields, rest) =>
              (fieldsOfText isRaw fuel nested rest).map fun (more, rest) => (fields ++ more, rest)
        else if c == '\x7d' then
          if nested > 0 then some ([], cs)
          else if rest.head? = some '\x7d' then fieldsOfText isRaw fuel nested rest.tail
          else none
        else if c == '\\' && !isRaw then
          match escape? false rest with
          | none => none
          | some (_, rest) => fieldsOfText isRaw fuel nested rest
        else fieldsOfText isRaw fuel nested rest

/-- The expression of a field, with those in its format, from inside its braces to after them. -/
def fieldsOfField (isRaw : Bool) : Nat → Nat → Field → List Char → Option (List (List Char) × List Char)
  | 0, _, _, _ => none
  | _, _, _, [] => none
  | fuel + 1, nested, f, c :: rest =>
    let isBare := f.brackets.isEmpty
    let isEmpty := f.source.all isBlank
    if (c == '!' || c == '=' || c == '>' || c == '<') && rest.head? == some '=' then
      fieldsOfField isRaw fuel nested (f.push [c, '=']) rest.tail
    else if c == '!' && isBare then
      match rest with
      | flag :: next :: _ =>
        if !isEmpty && (flag == 's' || flag == 'a' || flag == 'r') && (next == '\x7d' || next == ':') then
          fieldsOfField isRaw fuel nested f rest.tail
        else none
      | _ => none
    else if c == '=' && isBare then fieldsOfField isRaw fuel nested { f with isShown := true } rest
    else if c == ':' && isBare then
      match fieldsOfFormat isRaw fuel nested rest with
      | none => none
      | some (fields, rest) => fieldsOfField isRaw fuel nested { f with inner := f.inner ++ fields } rest
    else if c == '(' || c == '[' || c == '\x7b' then
      fieldsOfField isRaw fuel nested { f.push [c] with brackets := c :: f.brackets } rest
    else if c == ')' then
      match f.close? '(' c with
      | none => none
      | some f => fieldsOfField isRaw fuel nested f rest
    else if c == ']' then
      match f.close? '[' c with
      | none => none
      | some f => fieldsOfField isRaw fuel nested f rest
    else if c == '\x7d' then
      if isBare then if isEmpty then none else some (f.source.reverse :: f.inner, rest)
      else
        match f.close? '\x7b' c with
        | none => none
        | some f => fieldsOfField isRaw fuel nested f rest
    else if c == '"' || c == '\'' then
      match rest.dropWhile (· != c) with
      | [] => none
      | _ :: rest' =>
        fieldsOfField isRaw fuel nested (f.push ([c] ++ rest.takeWhile (· != c) ++ [c])) rest'
    else if c == ' ' && f.isShown then fieldsOfField isRaw fuel nested f rest
    else if c == '\\' then none
    else if f.isShown then none
    else fieldsOfField isRaw fuel nested (f.push [c]) rest

/-- The expressions of a format, up to the brace that closes its field. -/
def fieldsOfFormat (isRaw : Bool) : Nat → Nat → List Char → Option (List (List Char) × List Char)
  | 0, _, _ => none
  | _, _, [] => some ([], [])
  | fuel + 1, nested, c :: rest =>
    if c == '\x7b' then
      match fieldsOfText isRaw fuel (nested + 1) (c :: rest) with
      | none => none
      | some (fields, rest) =>
        (fieldsOfFormat isRaw fuel nested rest).map fun (more, rest) => (fields ++ more, rest)
    else if c == '\x7d' then some ([], c :: rest)
    else fieldsOfFormat isRaw fuel nested rest

end

/-- The source texts of the expressions in a formatted string. Each step takes a character, or opens a format at one. -/
def fields? (isRaw : Bool) (contents : List Char) : Option (List (List Char)) :=
  (fieldsOfText isRaw (3 * contents.length + 3) 0 contents).map Prod.fst

end ConfigCoverage.Python
