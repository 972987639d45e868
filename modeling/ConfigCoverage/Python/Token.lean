import ConfigCoverage.Text.Digit
import ConfigCoverage.Text.Identifier

/-!
# Python tokens

A source text is cut into tokens; the ends of logical lines and the changes of indentation are tokens too. What lies
before a token on its line, blanks, comments and joined lines, is its gap, so the text from one token to another is
spelled by the tokens and gaps between them.

`match`, `case` and `type` are keywords only where the rest of the line shows it (`softKeywords`).
-/

namespace ConfigCoverage.Python

/-- How a string literal is read. -/
structure StringKind where
  isRaw : Bool
  isBytes : Bool
  isFormatted : Bool
deriving DecidableEq, Repr

/-- The kinds of tokens. A string carries what stands between its quotes, with line ends as line feeds. -/
inductive TokenKind where
  | name
  | keyword
  | number
  | string (kind : StringKind) (contents : List Char)
  | operator
  | newline
  | indent
  | dedent
  | endOfSource
deriving DecidableEq, Repr

/-- A token with the gap before it. `row` counts the line feeds before the token. -/
structure Token where
  kind : TokenKind
  gap : String
  text : String
  row : Nat
deriving Repr

/-- The words that are never names. -/
def keywords : List String :=
  ["False", "None", "True", "and", "as", "assert", "async", "await", "break", "class", "continue", "def", "del", "elif",
    "else", "except", "finally", "for", "from", "global", "if", "import", "in", "is", "lambda", "nonlocal", "not", "or",
    "pass", "raise", "return", "try", "while", "with", "yield"]

/-! ## Numbers -/

/-- Digits with single underscores between them; `acc` holds what was taken, last first. -/
def digitRun (base : Nat) : List Char → List Char → List Char × List Char
  | acc, '_' :: c :: cs => if isDigitOf base c then digitRun base (c :: '_' :: acc) cs else (acc, '_' :: c :: cs)
  | acc, c :: cs => if isDigitOf base c then digitRun base (c :: acc) cs else (acc, c :: cs)
  | acc, [] => (acc, [])

/-- Does an exponent start here? -/
def atExponent : List Char → Bool
  | e :: s :: d :: _ =>
    (e == 'e' || e == 'E') && (isDigitOf 10 s || ((s == '+' || s == '-') && isDigitOf 10 d))
  | [e, d] => (e == 'e' || e == 'E') && isDigitOf 10 d
  | _ => false

/-- A trailing `j`. -/
def imaginary (acc cs : List Char) : List Char × List Char :=
  match cs with
  | c :: rest => if c == 'j' || c == 'J' then (c :: acc, rest) else (acc, cs)
  | [] => (acc, cs)

/-- Digits after a sign, at least one of them. -/
def exponentDigits (acc cs : List Char) : Option (List Char × List Char) :=
  let (acc, cs) := match cs with
    | c :: rest => if c == '+' || c == '-' then (c :: acc, rest) else (acc, cs)
    | [] => (acc, cs)
  match cs with
  | '_' :: _ => none
  | _ =>
    let (acc', rest) := digitRun 10 acc cs
    if acc'.length = acc.length then none else some (acc', rest)

/-- The part of a decimal number after its first digits. A fraction needs a digit on one side of the point. -/
def fraction (acc cs : List Char) : Option (List Char × List Char) :=
  let point : Option (List Char × List Char) := match cs with
    | '.' :: '_' :: _ => none
    | '.' :: rest =>
      let (acc', rest') := digitRun 10 ('.' :: acc) rest
      if acc'.length = 1 then none else some (acc', rest')
    | _ => some (acc, cs)
  match point with
  | none => none
  | some (acc, cs) =>
    match cs with
    | c :: rest =>
      if c == 'e' || c == 'E' then
        match rest with
        | '_' :: _ => none
        | _ => exponentDigits (c :: acc) rest
      else some (acc, cs)
    | [] => some (acc, cs)

/-- A number at the front and what is left after it, or nothing where the number is malformed. -/
def number? (cs : List Char) : Option (List Char × List Char) :=
  let radix := fun (base : Nat) (a b : Char) (rest : List Char) =>
    let (acc, rest') := digitRun base [b, a] rest
    if acc.length = 2 then none else some (acc, rest')
  let taken : Option (List Char × List Char) :=
    match cs with
    | '0' :: 'x' :: rest => radix 16 '0' 'x' rest
    | '0' :: 'X' :: rest => radix 16 '0' 'X' rest
    | '0' :: 'o' :: rest => radix 8 '0' 'o' rest
    | '0' :: 'O' :: rest => radix 8 '0' 'O' rest
    | '0' :: 'b' :: rest => radix 2 '0' 'b' rest
    | '0' :: 'B' :: rest => radix 2 '0' 'B' rest
    | _ =>
      let (acc, rest) := digitRun 10 [] cs
      if rest.head? == some '.' || atExponent rest then
        (fraction acc rest).map fun (acc, rest) => imaginary acc rest
      else
        let (acc', rest') := imaginary acc rest
        if acc'.length = acc.length ∧ cs.head? = some '0' ∧ acc.any fun c => c != '0' && c != '_' then none
        else some (acc', rest')
  taken.map fun (acc, rest) => (acc.reverse, rest)

/-! ## Strings -/

/-- The kind of string that a beginning of one or two letters announces. -/
def stringKind? (letters : List Char) : Option StringKind :=
  match letters.map Char.toLower with
  | [] => some ⟨false, false, false⟩
  | ['r'] => some ⟨true, false, false⟩
  | ['u'] => some ⟨false, false, false⟩
  | ['b'] => some ⟨false, true, false⟩
  | ['f'] => some ⟨false, false, true⟩
  | ['r', 'b'] => some ⟨true, true, false⟩
  | ['b', 'r'] => some ⟨true, true, false⟩
  | ['r', 'f'] => some ⟨true, false, true⟩
  | ['f', 'r'] => some ⟨true, false, true⟩
  | _ => none

/-- A string up to its closing quotes. -/
structure StringCut where
  raw : List Char
  contents : List Char
  rest : List Char

/-- The rest of a string; what was taken is kept last first, as it stands and with line ends as line feeds. -/
def stringRest (quote : Char) (triple : Bool) : List Char → List Char → List Char → Option StringCut
  | _, _, [] => none
  | raw, cs, '\\' :: '\r' :: '\n' :: rest => stringRest quote triple ('\n' :: '\r' :: '\\' :: raw) ('\n' :: '\\' :: cs) rest
  | raw, cs, '\\' :: '\r' :: rest => stringRest quote triple ('\r' :: '\\' :: raw) ('\n' :: '\\' :: cs) rest
  | raw, cs, '\\' :: c :: rest => stringRest quote triple (c :: '\\' :: raw) (c :: '\\' :: cs) rest
  | raw, cs, '\r' :: '\n' :: rest =>
    if triple then stringRest quote triple ('\n' :: '\r' :: raw) ('\n' :: cs) rest else none
  | raw, cs, c :: rest =>
    if c == '\n' || c == '\r' then
      if triple then stringRest quote triple (c :: raw) ('\n' :: cs) rest else none
    else if c == quote then
      if triple then
        match rest with
        | a :: b :: rest' =>
          if a == quote && b == quote then some ⟨(b :: a :: c :: raw).reverse, cs.reverse, rest'⟩
          else stringRest quote triple (c :: raw) (c :: cs) rest
        | _ => none
      else some ⟨(c :: raw).reverse, cs.reverse, rest⟩
    else stringRest quote triple (c :: raw) (c :: cs) rest

/-- A string at the front that starts with the given letters. -/
def string? (letters cs : List Char) : Option (StringKind × StringCut) :=
  match stringKind? letters, cs with
  | some kind, q :: rest =>
    if q == '"' || q == '\'' then
      match rest with
      | a :: b :: rest' =>
        if a == q && b == q then (stringRest q true (b :: a :: q :: letters.reverse) [] rest').map (kind, ·)
        else (stringRest q false (q :: letters.reverse) [] rest).map (kind, ·)
      | _ => (stringRest q false (q :: letters.reverse) [] rest).map (kind, ·)
    else none
  | _, _ => none

/-! ## Lines -/

/-- Indentation by tabs, then spaces. -/
structure Indentation where
  tabs : Nat
  spaces : Nat
deriving DecidableEq, Repr

/-- Compare indentations; there is no answer where it would depend on the width of a tab. -/
def Indentation.compare? (a b : Indentation) : Option Ordering :=
  match compare a.tabs b.tabs with
  | .lt => if a.spaces ≤ b.spaces then some .lt else none
  | .gt => if a.spaces ≥ b.spaces then some .gt else none
  | .eq => some (compare a.spaces b.spaces)

/-- The indentation of the next line that is not blank, with what lies before that line's text. -/
structure LineStart where
  level : Indentation
  gap : List Char
  rest : List Char

/-- Skip blank lines and comments and measure the indentation of the line after them. A tab after a space is refused. -/
def lineStart? : Bool → Indentation → List Char → List Char → Option LineStart
  | _, _, gap, [] => some ⟨⟨0, 0⟩, gap, []⟩
  | inComment, level, gap, c :: cs =>
    if c == '\n' || c == '\r' then lineStart? false ⟨0, 0⟩ (c :: gap) cs
    else if inComment then lineStart? true level (c :: gap) cs
    else if c == ' ' then lineStart? false { level with spaces := level.spaces + 1 } (c :: gap) cs
    else if c == '\t' then
      if level.spaces = 0 then lineStart? false { level with tabs := level.tabs + 1 } (c :: gap) cs else none
    else if c == '#' then lineStart? true ⟨0, 0⟩ (c :: gap) cs
    else if c == '\x0c' then lineStart? false ⟨0, 0⟩ (c :: gap) cs
    else some ⟨level, gap, c :: cs⟩

/-- Leave blocks until the indentation fits: how many were left, and the blocks still open. -/
def leaveBlocks (level : Indentation) : Nat → List Indentation → Option (Nat × List Indentation)
  | n, [] => if level.compare? ⟨0, 0⟩ = some .eq then some (n, []) else none
  | n, top :: blocks =>
    match level.compare? top with
    | some .lt => leaveBlocks level (n + 1) blocks
    | some .eq => some (n, top :: blocks)
    | _ => none

/-! ## Tokens -/

/-- The operators, longer ones first. -/
def operators : List (List Char) :=
  (["**=", "//=", "<<=", ">>=", "...", "!=", "==", "->", ":=", "+=", "-=", "*=", "/=", "%=", "&=", "|=", "^=", "@=",
    "**", "//", "<<", ">>", "<=", ">="] ++ ["+", "-", "*", "/", "%", "|", "^", "&", "~", "@", "=", "<", ">", "(", ")",
    "[", "]", ":", ";", ",", "."]).map String.toList ++ [['\x7b'], ['\x7d']]

/-- The characters that start a name. -/
def isNameStart (c : Char) : Bool := c == '_' || isIdentifierStart c

/-- The characters that a name goes on with. -/
def isNamePart (c : Char) : Bool := isIdentifierPart c

/-- What the cutting of a text depends on. -/
structure Scan where
  blocks : List Indentation
  nesting : Nat
  atLineStart : Bool
  row : Nat
  /-- The gap since the last token, last character first. -/
  gap : List Char
  /-- The tokens so far, last first. -/
  tokens : List Token

namespace Scan

/-- Add characters to the gap. -/
def skip (s : Scan) (cs : List Char) : Scan :=
  { s with gap := cs.reverse ++ s.gap, row := s.row + cs.count '\n' }

/-- Add a token. -/
def emit (s : Scan) (kind : TokenKind) (text : List Char) : Scan :=
  { s with
    gap := []
    row := s.row + text.count '\n'
    tokens := ⟨kind, String.ofList s.gap.reverse, String.ofList text, s.row⟩ :: s.tokens }

/-- Add a token without text several times. -/
def emitMany (s : Scan) (kind : TokenKind) : Nat → Scan
  | 0 => s
  | n + 1 => (s.emit kind []).emitMany kind n

/-- The end of the source: the end of its last line and of all blocks. -/
def finish (s : Scan) : Option (List Token) :=
  if s.nesting ≠ 0 then none
  else
    let s := if s.atLineStart then s else s.emit .newline []
    some ((s.emitMany .dedent s.blocks.length).emit .endOfSource []).tokens.reverse

/-- Enter or leave blocks at the start of a line. -/
def indent (s : Scan) (level : Indentation) : Option Scan :=
  match level.compare? (s.blocks.headD ⟨0, 0⟩) with
  | some .eq => some s
  | some .gt => some ({ s with blocks := level :: s.blocks }.emit .indent [])
  | some .lt => (leaveBlocks level 0 s.blocks).map fun (n, blocks) => { s with blocks }.emitMany .dedent n
  | none => none

/-- The token for an operator, which may open or close a bracket. -/
def operator (s : Scan) (op : List Char) : Option Scan :=
  if op == ['('] || op == ['['] || op == ['\x7b'] then some ({ s with nesting := s.nesting + 1 }.emit .operator op)
  else if op == [')'] || op == [']'] || op == ['\x7d'] then
    if s.nesting = 0 then none else some ({ s with nesting := s.nesting - 1 }.emit .operator op)
  else some (s.emit .operator op)

/-- The token for a word. -/
def word (s : Scan) (w : List Char) : Scan :=
  s.emit (if keywords.contains (String.ofList w) then .keyword else .name) w

/-- The token for a string. -/
def string (s : Scan) (cut : StringKind × StringCut) : Scan × List Char :=
  (s.emit (.string cut.1 cut.2.contents) cut.2.raw, cut.2.rest)

end Scan

/-- The letters before the quotes of a string at the front. -/
def stringLetters? : List Char → Option (List Char × List Char)
  | a :: q :: rest =>
    if q == '"' || q == '\'' then if (stringKind? [a]).isSome then some ([a], q :: rest) else none
    else
      match rest with
      | q' :: rest' =>
        if (q' == '"' || q' == '\'') && (stringKind? [a, q]).isSome then some ([a, q], q' :: rest') else none
      | [] => none
  | _ => none

/-- One token or one piece of a gap at the front, inside a line. -/
def scanToken (s : Scan) (cs : List Char) : Option (Scan × List Char) :=
  match cs with
  | [] => none
  | c :: rest =>
    if isNameStart c then
      match stringLetters? cs with
      | some (letters, quoted) => (string? letters quoted).map s.string
      | none => some (s.word (cs.takeWhile isNamePart), cs.dropWhile isNamePart)
    else if isEmoji c then some (s.emit .name [c], rest)
    else if c == '"' || c == '\'' then (string? [] cs).map s.string
    else if isDigitOf 10 c || (c == '.' && rest.head?.any (isDigitOf 10)) then
      (number? cs).map fun (taken, rest) => (s.emit .number taken, rest)
    else if c == ' ' || c == '\t' || c == '\x0c' then some (s.skip [c], rest)
    else if c == '#' then
      let isEnd := fun (c : Char) => c == '\n' || c == '\r'
      some (s.skip (cs.takeWhile fun c => !isEnd c), cs.dropWhile fun c => !isEnd c)
    else if c == '\n' || c == '\r' then
      let (line, rest) := match c, rest with
        | '\r', '\n' :: rest' => (['\r', '\n'], rest')
        | _, _ => ([c], rest)
      if s.nesting = 0 then some ({ s with atLineStart := true }.emit .newline line, rest) else some (s.skip line, rest)
    else if c == '\\' then
      match rest with
      | '\r' :: '\n' :: rest' => if rest'.isEmpty then none else some (s.skip ['\\', '\r', '\n'], rest')
      | '\n' :: rest' => if rest'.isEmpty then none else some (s.skip ['\\', '\n'], rest')
      | '\r' :: rest' => if rest'.isEmpty then none else some (s.skip ['\\', '\r'], rest')
      | _ => none
    else
      match operators.find? (· <+: cs) with
      | some op => (s.operator op).map fun s => (s, cs.drop op.length)
      | none => none

/-- Cut a text into tokens. -/
def scanFrom : Nat → Scan → List Char → Option (List Token)
  | 0, _, _ => none
  | fuel + 1, s, cs =>
    if s.atLineStart then
      match lineStart? false ⟨0, 0⟩ [] cs with
      | none => none
      | some start =>
        let s := s.skip start.gap.reverse
        match s.indent start.level with
        | none => none
        | some s =>
          if start.rest.isEmpty then s.finish else scanFrom fuel { s with atLineStart := false } start.rest
    else
      if cs.isEmpty then s.finish
      else
        match scanToken s cs with
        | none => none
        | some (s, rest) => scanFrom fuel s rest

/-! ## Soft keywords -/

/-- Does a line after `match` or `case` have a colon outside brackets and lambdas, and not at once? -/
def hasCaseColon : Nat → Bool → Bool → List Token → Bool
  | _, _, _, [] => false
  | depth, first, inLambda, t :: ts =>
    if t.kind = .newline then false
    else if depth = 0 ∧ t.text = "lambda" ∧ t.kind = .keyword then hasCaseColon depth false true ts
    else if depth = 0 ∧ t.text = ":" ∧ t.kind = .operator then
      if inLambda then hasCaseColon depth false false ts
      else if first then hasCaseColon depth false inLambda ts
      else true
    else if t.kind = .operator ∧ (t.text = "(" ∨ t.text = "[" ∨ t.text = "\x7b") then
      hasCaseColon (depth + 1) false inLambda ts
    else if t.kind = .operator ∧ (t.text = ")" ∨ t.text = "]" ∨ t.text = "\x7d") then
      hasCaseColon (depth - 1) false inLambda ts
    else hasCaseColon depth false inLambda ts

/-- Does an equals sign follow, after nothing but brackets? -/
def hasAliasEquals : Nat → List Token → Bool
  | _, [] => false
  | depth, t :: ts =>
    if t.kind = .newline then false
    else if depth = 0 ∧ t.kind = .operator ∧ t.text = "=" then true
    else if t.kind = .operator ∧ t.text = "[" then hasAliasEquals (depth + 1) ts
    else if t.kind = .operator ∧ t.text = "]" then hasAliasEquals (depth - 1) ts
    else if depth > 0 then hasAliasEquals depth ts
    else false

/-- Is a soft keyword at the start of a line a keyword, given what follows it? -/
def isSoftKeyword (word : String) (rest : List Token) : Bool :=
  if word = "type" then
    match rest with
    | t :: ts => t.kind = .name && hasAliasEquals 0 ts
    | [] => false
  else if word = "match" ∨ word = "case" then hasCaseColon 0 true false rest
  else false

/-- Turn names at the start of lines into the keywords that they are. -/
def softKeywords : Bool → List Token → List Token
  | _, [] => []
  | atStart, t :: ts =>
    let t := if atStart && t.kind = .name && isSoftKeyword t.text ts then { t with kind := .keyword } else t
    let starts := match t.kind with
      | .newline => true
      | .indent => true
      | .dedent => true
      | _ => false
    t :: softKeywords starts ts

/-- Cut a source text into tokens. `isModule` tells a whole source from a single expression. -/
def tokens? (isModule : Bool) (cs : List Char) : Option (List Token) :=
  let (mark, cs) := match cs with
    | c :: rest => if c.toNat == 0xFEFF then ([c], rest) else ([], cs)
    | [] => ([], [])
  (scanFrom (cs.length + 2) ⟨[], 0, true, 0, mark, []⟩ cs).map (softKeywords isModule)

end ConfigCoverage.Python
