import ConfigCoverage.Text.Digit
import ConfigCoverage.Toml.Value

/-!
# Reading TOML

* `parse?`: the top table of a document.
-/

namespace ConfigCoverage.Toml

/-! ## Blanks and comments -/

/-- The white space inside a line. -/
def isTomlBlank (c : Char) : Bool := c == ' ' || c == '\t'

/-- The text from the first character that is no white space. -/
def skipBlanks (cs : List Char) : List Char := cs.dropWhile isTomlBlank

/-- The characters of comments and strings: no control characters but tabs. -/
def isPlain (c : Char) : Bool := c == '\t' || (32 ≤ c.toNat && c.toNat != 127)

/-- What is left after a line break, if one is at the front. -/
def newline? (cs : List Char) : Option (List Char) :=
  match cs with
  | '\n' :: rest => some rest
  | '\r' :: '\n' :: rest => some rest
  | _ => none

/-- Skip a comment. -/
def skipRemark (cs : List Char) : List Char :=
  match cs with
  | '#' :: rest => rest.dropWhile isPlain
  | _ => cs

/-- The end of a line: blanks, perhaps a comment, and a line break or the end of the text. -/
def lineEnd? (cs : List Char) : Option (List Char) :=
  match skipRemark (skipBlanks cs) with
  | [] => some []
  | rest => newline? rest

/-- Skip blanks, comments and line breaks; a comment ends with its line. -/
def skipLines : Nat → List Char → Option (List Char)
  | 0, cs => some cs
  | fuel + 1, cs =>
    match skipBlanks cs with
    | '#' :: rest => (newline? (rest.dropWhile isPlain)).bind (skipLines fuel)
    | rest =>
      match newline? rest with
      | some rest => skipLines fuel rest
      | none => some rest

/-! ## Strings -/

/-- The character of `n` hexadecimal digits at the front. -/
def codeEscape? (n : Nat) (cs : List Char) : Option (Char × List Char) :=
  let digits := cs.take n
  if digits.length < n then none
  else
    match hexNumber? digits with
    | some v => if v.isValidChar then some (Char.ofNat v, cs.drop n) else none
    | none => none

/-- The character of an escape after its backslash. -/
def escape? (cs : List Char) : Option (Char × List Char) :=
  match cs with
  | 'b' :: rest => some ('\x08', rest)
  | 't' :: rest => some ('\t', rest)
  | 'n' :: rest => some ('\n', rest)
  | 'f' :: rest => some ('\x0c', rest)
  | 'r' :: rest => some ('\r', rest)
  | '"' :: rest => some ('"', rest)
  | '\\' :: rest => some ('\\', rest)
  | 'u' :: rest => codeEscape? 4 rest
  | 'U' :: rest => codeEscape? 8 rest
  | _ => none

/-- A string on one line up to its double quote. -/
def basicRest? : Nat → List Char → List Char → Option (String × List Char)
  | 0, _, _ => none
  | fuel + 1, acc, cs =>
    match cs with
    | '"' :: rest => some (String.ofList acc.reverse, rest)
    | '\\' :: rest => (escape? rest).bind fun (c, rest) => basicRest? fuel (c :: acc) rest
    | c :: rest => if isPlain c then basicRest? fuel (c :: acc) rest else none
    | [] => none

/-- A string without escapes up to its single quote. -/
def literalRest? (cs : List Char) : Option (String × List Char) :=
  let body := cs.takeWhile fun c => isPlain c && c != '\''
  match cs.drop body.length with
  | '\'' :: rest => some (String.ofList body, rest)
  | _ => none

/-- The quotes at the front of what is left inside a string of many lines: one or two of them belong to the string,
three end it, and up to two more before these belong to it. -/
def closing? (quote : Char) (cs : List Char) : Nat × Bool × List Char :=
  let n := (cs.takeWhile (· == quote)).length
  if n < 3 then (n, false, cs.drop n)
  else
    let inner := min (n - 3) 2
    (inner, true, cs.drop (inner + 3))

/-- A string of many lines up to its quotes. A backslash at the end of a line joins the lines, and the blanks between. -/
def longRest? (quote : Char) (escapes : Bool) : Nat → List Char → List Char → Option (String × List Char)
  | 0, _, _ => none
  | fuel + 1, acc, cs =>
    match cs with
    | [] => none
    | c :: rest =>
      if c == quote then
        let (n, isEnd, rest) := closing? quote cs
        let acc := List.replicate n quote ++ acc
        if isEnd then some (String.ofList acc.reverse, rest) else longRest? quote escapes fuel acc rest
      else if c == '\\' && escapes then
        match newline? (skipBlanks rest) with
        | some rest => longRest? quote escapes fuel acc (rest.dropWhile fun c => isTomlBlank c || c == '\n' || c == '\r')
        | none => (escape? rest).bind fun (c, rest) => longRest? quote escapes fuel (c :: acc) rest
      else
        match newline? cs with
        | some rest => longRest? quote escapes fuel ('\n' :: acc) rest
        | none => if isPlain c then longRest? quote escapes fuel (c :: acc) rest else none

/-- A string; a line break at its start does not belong to a string of many lines. -/
def string? (cs : List Char) : Option (String × List Char) :=
  let long := fun (quote : Char) (escapes : Bool) (rest : List Char) =>
    longRest? quote escapes (rest.length + 1) [] ((newline? rest).getD rest)
  match cs with
  | '"' :: '"' :: '"' :: rest => long '"' true rest
  | '\'' :: '\'' :: '\'' :: rest => long '\'' false rest
  | '"' :: rest => basicRest? (rest.length + 1) [] rest
  | '\'' :: rest => literalRest? rest
  | _ => none

/-! ## Keys -/

/-- The characters of keys without quotes. -/
def isKeyChar (c : Char) : Bool := c.isAlphanum || c == '_' || c == '-'

/-- A key without dots. -/
def simpleKey? (cs : List Char) : Option (String × List Char) :=
  match cs with
  | '"' :: rest => basicRest? (rest.length + 1) [] rest
  | '\'' :: rest => literalRest? rest
  | _ =>
    let key := cs.takeWhile isKeyChar
    if key.isEmpty then none else some (String.ofList key, cs.drop key.length)

/-- A key with dots: the names before the last, and the last. Blanks may stand around the names. -/
def key? : Nat → List Char → Option ((List String × String) × List Char)
  | 0, _ => none
  | fuel + 1, cs =>
    match simpleKey? (skipBlanks cs) with
    | none => none
    | some (name, rest) =>
      match skipBlanks rest with
      | '.' :: rest => (key? fuel rest).map fun ((path, key), rest) => ((name :: path, key), rest)
      | rest => some (([], name), rest)

/-! ## Numbers and moments -/

/-- Digits with single underscores between them, at least one. -/
def digits? (isDigit : Char → Bool) : Nat → List Char → Option (List Char × List Char)
  | 0, _ => none
  | fuel + 1, cs =>
    let run := cs.takeWhile isDigit
    if run.isEmpty then none
    else
      match cs.drop run.length with
      | '_' :: rest => (digits? isDigit fuel rest).map fun (more, rest) => (run ++ more, rest)
      | rest => some (run, rest)

/-- The number of digits in a base. -/
def numeral (base : Nat) (digits : List Char) : Nat :=
  digits.foldl (fun n c => base * n + (digitValue? c).getD 0) 0

/-- Numbers have 64 bits. -/
def fitsWord (negative : Bool) (n : Nat) : Bool :=
  if negative then n ≤ 0x8000000000000000 else n < 0x8000000000000000

/-- A whole number in a base other than ten, after its mark. -/
def based? (base : Nat) (cs : List Char) : Option (List Char) :=
  (digits? (isDigitOf base) (cs.length + 1) cs).bind fun (ds, rest) =>
    if fitsWord false (numeral base ds) then some rest else none

/-- A point and digits, or nothing; the flag tells which. -/
def fraction? (cs : List Char) : Option (Bool × List Char) :=
  match cs with
  | '.' :: rest => (digits? Char.isDigit (rest.length + 1) rest).map fun (_, rest) => (true, rest)
  | _ => some (false, cs)

/-- An exponent, or nothing; the flag tells which. -/
def exponent? (cs : List Char) : Option (Bool × List Char) :=
  match cs with
  | e :: rest =>
    if e == 'e' || e == 'E' then
      let rest := match rest with
        | s :: more => if s == '+' || s == '-' then more else rest
        | [] => rest
      (digits? Char.isDigit (rest.length + 1) rest).map fun (_, rest) => (true, rest)
    else some (false, cs)
  | [] => some (false, cs)

/-- A decimal number, whole or not. -/
def decimal? (negative : Bool) (cs : List Char) : Option (List Char) :=
  (digits? Char.isDigit (cs.length + 1) cs).bind fun (ds, rest) =>
    if ds.head? == some '0' && cs.length - rest.length > 1 then none
    else
      (fraction? rest).bind fun (hasPoint, rest) =>
        (exponent? rest).bind fun (hasExponent, rest) =>
          if hasPoint || hasExponent || fitsWord negative (numeral 10 ds) then some rest else none

/-- A number at the front, skipped. -/
def number? (cs : List Char) : Option (List Char) :=
  let signed := fun (negative : Bool) (rest : List Char) =>
    match rest with
    | 'i' :: 'n' :: 'f' :: rest => some rest
    | 'n' :: 'a' :: 'n' :: rest => some rest
    | _ => decimal? negative rest
  match cs with
  | '+' :: rest => signed false rest
  | '-' :: rest => signed true rest
  | '0' :: 'x' :: rest => based? 16 rest
  | '0' :: 'o' :: rest => based? 8 rest
  | '0' :: 'b' :: rest => based? 2 rest
  | _ => signed false cs

/-- A number of `n` digits at the front, up to a bound. -/
def fixed? (n lo hi : Nat) (cs : List Char) : Option (Nat × List Char) :=
  let digits := cs.take n
  let value := numeral 10 digits
  if digits.length = n ∧ digits.all Char.isDigit ∧ lo ≤ value ∧ value ≤ hi then some (value, cs.drop n) else none

/-- The number of days in a month. -/
def daysIn (year month : Nat) : Nat :=
  if month = 2 then if (year % 4 = 0 ∧ year % 100 ≠ 0) ∨ year % 400 = 0 then 29 else 28
  else if month = 4 ∨ month = 6 ∨ month = 9 ∨ month = 11 then 30
  else 31

/-- A character at the front, skipped. -/
def mark? (c : Char) (cs : List Char) : Option (List Char) :=
  match cs with
  | d :: rest => if d == c then some rest else none
  | [] => none

/-- A date at the front, skipped. -/
def date? (cs : List Char) : Option (List Char) := do
  let (year, cs) ← fixed? 4 0 9999 cs
  let cs ← mark? '-' cs
  let (month, cs) ← fixed? 2 1 12 cs
  let cs ← mark? '-' cs
  let (_, cs) ← fixed? 2 1 (daysIn year month) cs
  some cs

/-- A time of day at the front, skipped. -/
def time? (cs : List Char) : Option (List Char) := do
  let (_, cs) ← fixed? 2 0 23 cs
  let cs ← mark? ':' cs
  let (_, cs) ← fixed? 2 0 59 cs
  let cs ← mark? ':' cs
  let (_, cs) ← fixed? 2 0 60 cs
  match cs with
  | '.' :: rest => if (rest.head?.any Char.isDigit) then some (rest.dropWhile Char.isDigit) else none
  | _ => some cs

/-- The distance to universal time, or nothing. -/
def offset? (cs : List Char) : Option (List Char) :=
  match cs with
  | c :: rest =>
    if c == 'Z' || c == 'z' then some rest
    else if c == '+' || c == '-' then do
      let (_, cs) ← fixed? 2 0 23 rest
      let cs ← mark? ':' cs
      let (_, cs) ← fixed? 2 0 59 cs
      some cs
    else some cs
  | [] => some cs

/-- A date, a time, or both. -/
def moment? (cs : List Char) : Option (List Char) :=
  match date? cs with
  | some rest =>
    match rest with
    | c :: more =>
      if c == 'T' || c == 't' then (time? more).bind offset?
      else if c == ' ' && (more.take 3).all (fun c => c.isDigit || c == ':') && (more.drop 2).head? == some ':' then
        (time? more).bind offset?
      else some rest
    | [] => some rest
  | none => time? cs

/-! ## Values -/

/-- Arrays and tables in braces stand in each other less deep than this. -/
def depthLimit : Nat := 80

mutual

/-- The value at the front. -/
def value? : Nat → Nat → List Char → Option (Value × List Char)
  | 0, _, _ => none
  | fuel + 1, depth, cs =>
    match cs with
    | [] => none
    | c :: rest =>
      if c == '"' || c == '\'' then (string? cs).map fun (s, rest) => (.string s, rest)
      else if c == '[' then
        if depth + 1 < depthLimit then (items? fuel (depth + 1) rest).map fun (vs, rest) => (.array vs, rest) else none
      else if c == '\x7b' then
        if depth + 1 < depthLimit then
          match skipBlanks rest with
          | '\x7d' :: rest => some (.table .inline [], rest)
          | rest =>
            match pairs? fuel (depth + 1) rest with
            | none => none
            | some (pairs, rest) => (insertAll? pairs []).map fun fields => (.table .inline fields, rest)
        else none
      else
        match cs with
        | 't' :: 'r' :: 'u' :: 'e' :: rest => some (.scalar, rest)
        | 'f' :: 'a' :: 'l' :: 's' :: 'e' :: rest => some (.scalar, rest)
        | _ =>
          match moment? cs with
          | some rest => some (.moment, rest)
          | none => (number? cs).map fun rest => (.scalar, rest)

/-- The items of an array up to its bracket; a comma may follow the last. -/
def items? : Nat → Nat → List Char → Option (List Value × List Char)
  | 0, _, _ => none
  | fuel + 1, depth, cs =>
    match skipLines (cs.length + 1) cs with
    | none => none
    | some (']' :: rest) => some ([], rest)
    | some cs =>
      match value? fuel depth cs with
      | none => none
      | some (v, rest) =>
        match skipLines (rest.length + 1) rest with
        | some (']' :: rest) => some ([v], rest)
        | some (',' :: rest) => (items? fuel depth rest).map fun (vs, rest) => (v :: vs, rest)
        | _ => none

/-- The pairs of a table in braces up to its brace. -/
def pairs? : Nat → Nat → List Char → Option (List KeyValue × List Char)
  | 0, _, _ => none
  | fuel + 1, depth, cs =>
    match pair? fuel depth cs with
    | none => none
    | some (p, rest) =>
      match skipBlanks rest with
      | '\x7d' :: rest => some ([p], rest)
      | ',' :: rest => (pairs? fuel depth rest).map fun (ps, rest) => (p :: ps, rest)
      | _ => none

/-- A key, an equals sign and a value. -/
def pair? : Nat → Nat → List Char → Option (KeyValue × List Char)
  | 0, _, _ => none
  | fuel + 1, depth, cs =>
    match key? (cs.length + 1) cs with
    | some ((path, key), '=' :: rest) =>
      (value? fuel depth (skipBlanks rest)).map fun (v, rest) => (⟨path, key, v⟩, rest)
    | _ => none

end

/-! ## Documents -/

/-- A header at the front of a line, to the end of the line. -/
def header? (cs : List Char) : Option (Section × List Char) :=
  let finish := fun (isRepeated : Bool) (path : List String × String) (rest : List Char) =>
    (lineEnd? rest).map fun rest => (⟨path.1, path.2, isRepeated, []⟩, rest)
  match cs with
  | '[' :: '[' :: rest =>
    match key? (rest.length + 1) rest with
    | some (path, ']' :: ']' :: rest) => finish true path rest
    | _ => none
  | '[' :: rest =>
    match key? (rest.length + 1) rest with
    | some (path, ']' :: rest) => finish false path rest
    | _ => none
  | _ => none

/-- The document as far as it was read: what is finished, and the table being filled with its pairs, last first. -/
structure Progress where
  document : Fields
  current : Option Section
  pairs : List KeyValue

/-- Finish the table being filled. -/
def Progress.finish? (s : Progress) : Option Fields :=
  match s.current with
  | none => insertAll? s.pairs.reverse s.document
  | some current => { current with pairs := s.pairs.reverse }.addTo? s.document

/-- Read the lines of a document; each step takes a character at least. -/
def lines? : Nat → Progress → List Char → Option Fields
  | 0, _, _ => none
  | fuel + 1, s, cs =>
    match skipBlanks cs with
    | [] => s.finish?
    | '#' :: rest => (lineEnd? ('#' :: rest)).bind (lines? fuel s)
    | '[' :: rest =>
      match header? ('[' :: rest), s.finish? with
      | some (header, rest), some document => lines? fuel ⟨document, some header, []⟩ rest
      | _, _ => none
    | cs =>
      match newline? cs with
      | some rest => lines? fuel s rest
      | none =>
        match pair? (2 * cs.length + 2) 0 cs with
        | none => none
        | some (p, rest) => (lineEnd? rest).bind (lines? fuel { s with pairs := p :: s.pairs })

/-- The top table of a document. A byte order mark at its start is skipped. -/
def parse? (text : String) : Option Fields :=
  let cs := match text.toList with
    | c :: rest => if c.toNat = 0xFEFF then rest else c :: rest
    | [] => []
  lines? (cs.length + 1) ⟨[], none, []⟩ cs

end ConfigCoverage.Toml
