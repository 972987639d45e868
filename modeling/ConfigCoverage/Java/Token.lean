import ConfigCoverage.Text.Identifier

/-!
# Java tokens

A source text is cut into words, literals and symbols. What lies between two tokens belongs to the second one: the
comments, and the white space before each of them and before the token itself. So the tokens with their gaps spell the
source again.

A `>` is always a token of its own, since only the grammar knows whether two of them close two type arguments or shift a
number; `joined` tells that nothing stands before a token.
-/

namespace ConfigCoverage.Java

/-- The kinds of tokens. A string with embedded expressions is cut into pieces at them. -/
inductive TokenKind where
  | word
  | number
  | character
  | string
  | stringStart
  | stringMiddle
  | stringEnd
  | symbol
  | endOfSource
deriving DecidableEq, Repr

/-- A piece of source text and the white space before it. `row` counts the line ends before the piece. -/
structure Piece where
  gap : String
  text : String
  row : Nat
deriving Repr, Inhabited

/-- A token with the comments before it. -/
structure Token where
  kind : TokenKind
  piece : Piece
  comments : List Piece
deriving Repr

/-- Does the token follow the one before it without a gap? -/
def Token.joined (t : Token) : Bool := t.piece.gap == "" && t.comments.isEmpty

/-! ## Numbers -/

/-- What is left of a text after the longest beginning of some form. -/
abbrev Form := List Char → Option (List Char)

namespace Form

/-- One character of a class. -/
def one (p : Char → Bool) : Form
  | c :: cs => if p c then some cs else none
  | [] => none

/-- One form after another. -/
def andThen (f g : Form) : Form := fun cs => (f cs).bind g

/-- A form, or nothing. -/
def optional (f : Form) : Form := fun cs => some ((f cs).getD cs)

/-- At least one character of a class. -/
def some1 (p : Char → Bool) : Form := fun cs =>
  match cs with
  | c :: rest => if p c then some (rest.dropWhile p) else none
  | [] => none

/-- The form that leaves least. -/
def longest (fs : List Form) : Form := fun cs =>
  (fs.filterMap (· cs)).foldl (fun best rest =>
    match best with
    | none => some rest
    | some b => some (if rest.length < b.length then rest else b)) none

/-- Groups of digits with underscores between them: one underscore, or any number where `many` is set. -/
def groups (p : Char → Bool) (many : Bool) : Nat → Form
  | 0, cs => some1 p cs
  | fuel + 1, cs =>
    match some1 p cs with
    | none => none
    | some rest =>
      match rest with
      | '_' :: after =>
        match groups p many fuel (if many then after.dropWhile (· == '_') else after) with
        | some rest' => some rest'
        | none => some rest
      | _ => some rest

end Form

open Form

/-- A decimal digit. -/
def isDigit (c : Char) : Bool := '0' ≤ c && c ≤ '9'

/-- A hexadecimal digit. -/
def isHexDigit (c : Char) : Bool := isDigit c || ('a' ≤ c && c ≤ 'f') || ('A' ≤ c && c ≤ 'F')

/-- An octal digit. -/
def isOctalDigit (c : Char) : Bool := '0' ≤ c && c ≤ '7'

/-- Is `c` one of the two letters, or the same letter in the other case? -/
def isLetter (l : Char) (c : Char) : Bool := c.toLower == l

/-- Decimal digits with underscores between them. -/
def decimalGroups : Form := fun cs => groups isDigit false cs.length cs

/-- Hexadecimal digits with underscores between them. -/
def hexGroups : Form := fun cs => groups isHexDigit false cs.length cs

/-- A decimal number without a leading zero. -/
def plainDigits : Form := fun cs =>
  match cs with
  | '0' :: rest => some rest
  | c :: rest =>
    if isDigit c then
      let body := match rest with
        | '_' :: after => after
        | _ => rest
      some ((groups isDigit true body.length body).getD rest)
    else none
  | [] => none

/-- A sign, or none. -/
def sign : Form := optional (one fun c => c == '+' || c == '-')

/-- A decimal exponent. -/
def exponent : Form := andThen (one (isLetter 'e')) (andThen sign decimalGroups)

/-- The letter that makes a number a floating one. -/
def floatSuffix : Form := one fun c => isLetter 'f' c || isLetter 'd' c

/-- The letter that makes a number a long one, or none. -/
def longSuffix : Form := optional (one (isLetter 'l'))

/-- A zero and a letter, which tell the base. -/
def zeroThen (l : Char) : Form := andThen (one (· == '0')) (one (isLetter l))

/-- The forms of number literals. -/
def numberForms : List Form :=
  [ andThen plainDigits longSuffix,
    andThen (zeroThen 'x') (andThen hexGroups longSuffix),
    andThen (andThen (one (· == '0')) (optional (one (isLetter 'o'))))
      (andThen (fun cs => groups isOctalDigit false cs.length cs) longSuffix),
    andThen (zeroThen 'b') (andThen (fun cs => groups (fun c => c == '0' || c == '1') false cs.length cs) longSuffix),
    andThen decimalGroups (andThen (one (· == '.')) (andThen (optional decimalGroups)
      (andThen (optional exponent) (optional floatSuffix)))),
    andThen (one (· == '.')) (andThen decimalGroups (andThen (optional exponent) (optional floatSuffix))),
    andThen plainDigits (andThen exponent (optional floatSuffix)),
    andThen plainDigits (andThen (optional exponent) floatSuffix),
    andThen (zeroThen 'x') (andThen
      (longest [andThen hexGroups (optional (one (· == '.'))),
        andThen (optional hexGroups) (andThen (one (· == '.')) hexGroups)])
      (optional (andThen (one (isLetter 'p')) (andThen sign (andThen plainDigits (optional floatSuffix)))))) ]

/-- The characters that occur in number literals. -/
def isNumberPart (c : Char) : Bool := c.isAlphanum || c == '_' || c == '.' || c == '+' || c == '-'

/-- A number literal at the front, and what is left after it. -/
def number? (cs : List Char) : Option (List Char × List Char) :=
  let run := cs.takeWhile isNumberPart
  (longest numberForms run).map fun rest =>
    let n := run.length - rest.length
    (run.take n, cs.drop n)

/-! ## Strings -/

/-- What is left after the escape that follows a backslash inside a string. -/
def escape : Form := fun cs =>
  match cs with
  | [] => none
  | 'x' :: a :: b :: rest => if isHexDigit a && isHexDigit b then some rest else none
  | 'u' :: a :: b :: c :: d :: rest =>
    if isHexDigit a && isHexDigit b && isHexDigit c && isHexDigit d then some rest
    else if a == '\x7b' then
      match some1 isHexDigit (b :: c :: d :: rest) with
      | some ('\x7d' :: rest') => some rest'
      | _ => none
    else none
  | c :: rest =>
    if c == 'x' || c == 'u' then none
    else if isOctalDigit c then
      let more := (rest.take 2).takeWhile isOctalDigit
      some (rest.drop more.length)
    else some rest

/-- Are all escapes of a string well formed? -/
def escapesOk : Nat → List Char → Bool
  | 0, _ => true
  | fuel + 1, cs =>
    match cs with
    | [] => true
    | '\\' :: rest => (escape rest).any (escapesOk fuel)
    | _ :: rest => escapesOk fuel rest

/-- A beginning of a text that ends a piece of a string: at the quotes, or at an embedded expression. -/
structure StringCut where
  taken : List Char
  rest : List Char
  embedded : Bool

/-- The rest of a string between single quotation marks; `acc` holds what was taken, last first. -/
def stringRest : List Char → List Char → Option StringCut
  | _, [] => none
  | acc, '"' :: rest => some ⟨('"' :: acc).reverse, rest, false⟩
  | acc, '\\' :: '\x7b' :: rest => some ⟨('\x7b' :: '\\' :: acc).reverse, rest, true⟩
  | acc, '\\' :: c :: rest => stringRest (c :: '\\' :: acc) rest
  | acc, c :: rest => stringRest (c :: acc) rest

/-- The rest of a text block; `acc` holds what was taken, last first. -/
def blockRest : List Char → List Char → Option StringCut
  | _, [] => none
  | acc, '"' :: '"' :: '"' :: rest => some ⟨('"' :: '"' :: '"' :: acc).reverse, rest, false⟩
  | acc, '\\' :: '\x7b' :: rest => some ⟨('\x7b' :: '\\' :: acc).reverse, rest, true⟩
  | acc, '\\' :: c :: rest => blockRest (c :: '\\' :: acc) rest
  | acc, c :: rest => blockRest (c :: acc) rest

/-- The rest of a character literal with at least one character inside; `acc` holds what was taken, last first. -/
def characterRest : List Char → List Char → Option (List Char × List Char)
  | _, [] => none
  | acc, '\'' :: rest => if acc.length ≤ 1 then none else some (('\'' :: acc).reverse, rest)
  | acc, '\\' :: c :: rest => characterRest (c :: '\\' :: acc) rest
  | acc, c :: rest => if c == '\n' || c == '\\' then none else characterRest (c :: acc) rest

/-! ## Gaps -/

/-- White space between tokens. -/
def isGap (c : Char) : Bool := c == ' ' || ('\t' ≤ c && c ≤ '\r')

/-- The rest of a comment that ends with a star and a slash; `acc` holds what was taken, last first. -/
def commentRest : List Char → List Char → Option (List Char × List Char)
  | _, [] => none
  | acc, '*' :: '/' :: rest => some (('/' :: '*' :: acc).reverse, rest)
  | acc, c :: rest => commentRest (c :: acc) rest

/-- A comment at the front, and what is left after it. -/
def comment? (cs : List Char) : Option (List Char × List Char) :=
  match cs with
  | '/' :: '/' :: _ => some (cs.takeWhile (· != '\n'), cs.dropWhile (· != '\n'))
  | '/' :: '*' :: rest => commentRest ['*', '/'] rest
  | _ => none

/-- The number of line ends. -/
def lineEnds (cs : List Char) : Nat := cs.count '\n'

/-! ## Tokens -/

/-- The symbols of more than one character, longer ones first. -/
def longSymbols : List (List Char) :=
  ["@interface", "...", "<<=", "->", "::", "++", "--", "&&", "||", "==", "!=", "<=", "<<", "+=", "-=", "*=", "/=", "%=",
    "&=", "|=", "^="].map String.toList

/-- The characters that are symbols by themselves. -/
def shortSymbols : List Char := "()[];,.@=><!~?:+-*/&|^%".toList ++ ['\x7b', '\x7d']

/-- The characters that a word goes on with. -/
def isWordPart (c : Char) : Bool := isIdentifierPart c || c == '$' || c.toNat == 0xA2

/-- A word, a number, a character literal or a symbol at the front, and what is left after it. -/
def plainToken? (cs : List Char) : Option (TokenKind × List Char × List Char) :=
  match cs with
  | [] => none
  | c :: rest =>
    if isIdentifierStart c || c == '_' || c == '$' then
      some (.word, c :: rest.takeWhile isWordPart, rest.dropWhile isWordPart)
    else
      match number? cs with
      | some (taken, rest) => some (.number, taken, rest)
      | none =>
        if c == '\'' then (characterRest [c] rest).map (.character, ·)
        else
          match longSymbols.find? (· <+: cs) with
          | some s => some (.symbol, s, cs.drop s.length)
          | none => if shortSymbols.contains c then some (.symbol, [c], rest) else none

/-- The strings around a place: for each whether it is a text block, and how many braces are open in the expression
embedded in it. -/
abbrev Embeddings := List (Bool × Nat)

/-- A token with what is left after it and the strings around that place. -/
structure TokenCut where
  kind : TokenKind
  taken : List Char
  rest : List Char
  embeddings : Embeddings

/-- Go on with a string, after its opening quotes or after an embedded expression. -/
def stringToken? (isBlock isStart : Bool) (outer : Embeddings) (opening cs : List Char) : Option TokenCut :=
  match if isBlock then blockRest opening.reverse cs else stringRest opening.reverse cs with
  | none => none
  | some cut =>
    let body := (cut.taken.drop opening.length).take (cut.taken.length - opening.length - (if cut.embedded then 2 else 0))
    if isBlock || escapesOk body.length body then
      let kind := match isStart, cut.embedded with
        | true, false => .string
        | true, true => .stringStart
        | false, true => .stringMiddle
        | false, false => .stringEnd
      some ⟨kind, cut.taken, cut.rest, if cut.embedded then (isBlock, 0) :: outer else outer⟩
    else none

/-- The token at the front. -/
def nextToken? (embeddings : Embeddings) (cs : List Char) : Option TokenCut :=
  match cs, embeddings with
  | '"' :: '"' :: '"' :: rest, _ => stringToken? true true embeddings ['"', '"', '"'] rest
  | '"' :: rest, _ => stringToken? false true embeddings ['"'] rest
  | '\x7d' :: rest, (isBlock, 0) :: outer => stringToken? isBlock false outer ['\x7d'] rest
  | '\x7d' :: rest, (isBlock, n + 1) :: outer => some ⟨.symbol, ['\x7d'], rest, (isBlock, n) :: outer⟩
  | '\x7b' :: rest, (isBlock, n) :: outer => some ⟨.symbol, ['\x7b'], rest, (isBlock, n + 1) :: outer⟩
  | _, _ => (plainToken? cs).map fun (kind, taken, rest) => ⟨kind, taken, rest, embeddings⟩

/-- Cut a text into tokens, last first, the end of the source among them; or give the row where there is no token. -/
def tokensFrom : Nat → Embeddings → Nat → List Piece → List Token → List Char → Except Nat (List Token)
  | 0, _, row, _, _, _ => .error row
  | fuel + 1, embeddings, row, comments, acc, cs =>
    let blanks := cs.takeWhile isGap
    let rest := cs.dropWhile isGap
    let row := row + lineEnds blanks
    let gap := String.ofList blanks
    match comment? rest with
    | some (taken, after) =>
      tokensFrom fuel embeddings (row + lineEnds taken) (⟨gap, String.ofList taken, row⟩ :: comments) acc after
    | none =>
      if rest.isEmpty then .ok (⟨.endOfSource, ⟨gap, "", row⟩, comments.reverse⟩ :: acc)
      else
        match nextToken? embeddings rest with
        | none => .error row
        | some cut =>
          tokensFrom fuel cut.embeddings (row + lineEnds cut.taken) []
            (⟨cut.kind, ⟨gap, String.ofList cut.taken, row⟩, comments.reverse⟩ :: acc) cut.rest

/-- The source text without a byte order mark in front. -/
def dropMark : List Char → List Char
  | c :: cs => if c.toNat == 0xFEFF then cs else c :: cs
  | [] => []

/-- Cut a source text into tokens, or give the row where there is no token. -/
def tokens (source : String) : Except Nat (List Token) :=
  let cs := dropMark source.toList
  (tokensFrom (cs.length + 1) [] 0 [] [] cs).map List.reverse

end ConfigCoverage.Java
