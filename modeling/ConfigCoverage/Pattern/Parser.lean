import ConfigCoverage.Pattern.Basic
import ConfigCoverage.Text.Category
import ConfigCoverage.Text.Digit

/-!
# Reading patterns

* `Pattern.ofString?`: the pattern that a text writes, if it writes one.

There is neither look-around nor reference to a group. Flags turn case folding (`i`), lines (`m`), the dot for line
feeds (`s`), blanks between parts (`x`), carriage returns at line ends (`R`) and Unicode (`u`) on and off.
-/

namespace ConfigCoverage.Pattern

/-- What the meaning of the parts depends on. -/
structure Flags where
  fold : Bool := false
  lines : Bool := false
  dotAll : Bool := false
  swapGreed : Bool := false
  spaced : Bool := false
  unicode : Bool := true
  returns : Bool := false

/-! ## Characters -/

/-- Skip the rest of a line. -/
def skipComment : List Char → List Char
  | [] => []
  | c :: cs => if c == '\n' then cs else skipComment cs

/-- Skip blanks and comments, up to `fuel` of them. -/
def skipBlanks : Nat → List Char → List Char
  | 0, cs => cs
  | _, [] => []
  | fuel + 1, c :: cs =>
    if isBlank c then skipBlanks fuel cs
    else if c == '#' then skipBlanks fuel (skipComment cs)
    else c :: cs

/-- Skip blanks and comments where the flags say so. -/
def skip (flags : Flags) (cs : List Char) : List Char := if flags.spaced then skipBlanks cs.length cs else cs

/-- A set of characters, whatever their case if the flags say so. -/
def folded (flags : Flags) (p : Char → Bool) : Char → Bool :=
  if flags.fold then
    if flags.unicode then fun c => (caseVariants c).any p else fun c => p c || p c.toLower || p c.toUpper
  else p

/-- Has the set a member that is no ASCII character, as far as bytes go? -/
def leavesAscii (p : Char → Bool) : Bool := (List.range 128).any fun n => p (Char.ofNat (n + 128))

/-- A set of characters as a pattern; without Unicode it is one of ASCII characters. -/
def set? (flags : Flags) (p : Char → Bool) : Option Pattern :=
  if !flags.unicode && leavesAscii p then none else some (.char p)

/-- The characters of words, where Unicode is off. -/
def isAsciiWord (c : Char) : Bool := c.isAlphanum || c == '_'

/-- The white space, where Unicode is off. -/
def isAsciiBlank (c : Char) : Bool := c == ' ' || (9 ≤ c.toNat && c.toNat ≤ 13)

/-- The characters of words. -/
def wordClass (flags : Flags) : Char → Bool := if flags.unicode then isWordChar else isAsciiWord

/-- The class of a letter after a backslash. -/
def letterClass? (flags : Flags) (c : Char) : Option (Char → Bool) :=
  let digit := if flags.unicode then isDecimalDigit else Char.isDigit
  let blank := if flags.unicode then isBlank else isAsciiBlank
  match c with
  | 'd' => some digit
  | 'D' => some fun c => !digit c
  | 's' => some blank
  | 'S' => some fun c => !blank c
  | 'w' => some (wordClass flags)
  | 'W' => some fun c => !wordClass flags c
  | _ => none

/-- The classes of ASCII characters that have a name. -/
def asciiClass? (name : String) : Option (Char → Bool) :=
  let isGraph := fun (c : Char) => 33 ≤ c.toNat && c.toNat ≤ 126
  match name with
  | "alnum" => some Char.isAlphanum
  | "alpha" => some Char.isAlpha
  | "ascii" => some fun c => c.toNat < 128
  | "blank" => some fun c => c == ' ' || c == '\t'
  | "cntrl" => some fun c => c.toNat < 32 || c.toNat == 127
  | "digit" => some Char.isDigit
  | "graph" => some isGraph
  | "lower" => some Char.isLower
  | "print" => some fun c => c == ' ' || isGraph c
  | "punct" => some fun c => isGraph c && !c.isAlphanum
  | "space" => some isAsciiBlank
  | "upper" => some Char.isUpper
  | "word" => some isAsciiWord
  | "xdigit" => some fun c => c.isDigit || ('a' ≤ c.toLower && c.toLower ≤ 'f')
  | _ => none

/-! ## Escapes -/

/-- What an escape stands for. -/
inductive Escaped where
  | literal (c : Char)
  /-- A byte beyond ASCII, where Unicode is off. -/
  | byte (n : Nat)
  | set (p : Char → Bool)
  | look (p : Option Char → Option Char → Bool)

/-- The value of hexadecimal digits, at least one. -/
def hexDigits? (cs : List Char) : Option Nat :=
  if cs.isEmpty then none else hexNumber? cs

/-- The character of a code point. -/
def charOf? (n : Nat) : Option Char := if n.isValidChar then some (Char.ofNat n) else none

/-- Take `n` characters, with blanks between them where the flags say so. -/
def takeSpaced (flags : Flags) : Nat → List Char → Option (List Char × List Char)
  | 0, cs => some ([], cs)
  | n + 1, cs =>
    match skip flags cs with
    | [] => none
    | c :: rest => (takeSpaced flags n rest).map fun (taken, rest) => (c :: taken, rest)

/-- Take the characters up to a closing brace, with blanks left out where the flags say so. -/
def takeBraced (flags : Flags) : Nat → List Char → Option (List Char × List Char)
  | 0, _ => none
  | fuel + 1, cs =>
    match skip flags cs with
    | [] => none
    | c :: rest =>
      if c == '\x7d' then some ([], rest)
      else (takeBraced flags fuel rest).map fun (taken, rest) => (c :: taken, rest)

/-- A code point of `n` hexadecimal digits, or of any number in braces. -/
def hexEscape? (flags : Flags) (n : Nat) (cs : List Char) : Option (Escaped × List Char) :=
  match skip flags cs with
  | '\x7b' :: rest =>
    (takeBraced flags (rest.length + 1) rest).bind fun (digits, rest) =>
      ((hexDigits? digits).bind charOf?).map fun c => (.literal c, rest)
  | rest =>
    (takeSpaced flags n rest).bind fun (digits, rest) =>
      (hexDigits? digits).bind fun value =>
        if n = 2 ∧ !flags.unicode ∧ value ≥ 128 then some (.byte value, rest)
        else (charOf? value).map fun c => (.literal c, rest)

/-- A name of a property as it is compared: lower case, without blanks, hyphens, underscores and a leading `is`. -/
def plainName (cs : List Char) : String :=
  let isMarked := (cs.take 2).map Char.toLower == ['i', 's']
  let kept := ((if isMarked then cs.drop 2 else cs).filter fun c =>
    c != ' ' && c != '_' && c != '-' && c.toNat < 128).map Char.toLower
  if isMarked && kept == ['c'] then "isc" else String.ofList kept

/-- The characters of a property, given by its name or by the name of a property and a value of it. -/
def propertyClass? (cs : List Char) : Option (Char → Bool) :=
  let text := String.ofList cs
  let valued := fun (name value : String) =>
    let value := plainName value.toList
    match plainName name.toList with
    | "gc" | "generalcategory" => categoryNamed? value
    | "sc" | "script" | "scx" | "scriptextensions" => scriptNamed? value
    | _ => none
  match text.splitOn "!=" with
  | name :: value :: rest => (valued name ("!=".intercalate (value :: rest))).map fun p c => !p c
  | _ =>
    match text.splitOn ":" with
    | name :: value :: rest => valued name (":".intercalate (value :: rest))
    | _ =>
      match text.splitOn "=" with
      | name :: value :: rest => valued name ("=".intercalate (value :: rest))
      | _ => classNamed? (plainName cs)

/-- A class by the name of a property: one letter, or a name in braces. -/
def propertyEscape? (flags : Flags) (negated : Bool) (cs : List Char) : Option (Escaped × List Char) :=
  if !flags.unicode then none
  else
    let finish := fun (name : List Char) (rest : List Char) =>
      (propertyClass? name).map fun p =>
        let p := folded flags p
        (Escaped.set (if negated then fun c => !p c else p), rest)
    match skip flags cs with
    | [] => none
    | c :: rest =>
      if c == '\x7b' then (takeBraced flags (rest.length + 1) rest).bind fun (name, rest) => finish name rest
      else if c == '\\' then none
      else finish [c] rest

/-- The places between a character that satisfies `p` and one that does not. -/
def boundary (p : Char → Bool) : Option Char → Option Char → Bool := fun before after => before.any p != after.any p

/-- A place at the start or the end of a word, as named in braces. -/
def wordPlace? (p : Char → Bool) (name : String) : Option (Option Char → Option Char → Bool) :=
  match name with
  | "start" => some fun before after => !before.any p && after.any p
  | "end" => some fun before after => before.any p && !after.any p
  | "start-half" => some fun before _ => !before.any p
  | "end-half" => some fun _ after => !after.any p
  | _ => none

/-- A boundary of a word, perhaps of a kind that is named in braces. Other braces are a count of repetitions. -/
def boundaryEscape? (flags : Flags) (cs : List Char) : Option (Escaped × List Char) :=
  let p := wordClass flags
  let plain := some (Escaped.look (boundary p), cs)
  match cs with
  | '\x7b' :: rest =>
    match skip flags rest with
    | c :: _ =>
      if c.isAlpha || c == '-' then
        (takeBraced flags (rest.length + 1) rest).bind fun (name, rest) =>
          (wordPlace? p (String.ofList name)).map fun look => (.look look, rest)
      else plain
    | [] => none
  | _ => plain

/-- The escape after a backslash. -/
def escape? (flags : Flags) (cs : List Char) : Option (Escaped × List Char) :=
  match cs with
  | [] => none
  | c :: rest =>
    let literal := fun (n : Nat) => some (Escaped.literal (Char.ofNat n), rest)
    let place := fun p => some (Escaped.look p, rest)
    match letterClass? flags c with
    | some p => some (.set p, rest)
    | none =>
      match c with
      | 'x' => hexEscape? flags 2 rest
      | 'u' => hexEscape? flags 4 rest
      | 'U' => hexEscape? flags 8 rest
      | 'p' => propertyEscape? flags false rest
      | 'P' => propertyEscape? flags true rest
      | 'a' => literal 7
      | 'f' => literal 12
      | 't' => literal 9
      | 'n' => literal 10
      | 'r' => literal 13
      | 'v' => literal 11
      | 'A' => place fun before _ => before.isNone
      | 'z' => place fun _ after => after.isNone
      | 'b' => boundaryEscape? flags rest
      | 'B' => place fun before after => !boundary (wordClass flags) before after
      | '<' => place fun before after => !before.any (wordClass flags) && after.any (wordClass flags)
      | '>' => place fun before after => before.any (wordClass flags) && !after.any (wordClass flags)
      | _ => if c.toNat < 128 && !c.isAlphanum then literal c.toNat else none

/-! ## Classes in brackets -/

/-- A combination of two sets. -/
inductive SetOperation where
  | meet
  | minus
  | either

/-- A class in brackets as far as it was read. -/
structure ClassParts where
  /-- The set on the left of the last operation, with the operation. -/
  pending : Option ((Char → Bool) × SetOperation)
  current : Char → Bool

/-- The set of what was read. -/
def ClassParts.total (flags : Flags) (s : ClassParts) : Char → Bool :=
  let rhs := folded flags s.current
  match s.pending with
  | none => rhs
  | some (lhs, op) =>
    let lhs := folded flags lhs
    match op with
    | .meet => fun c => lhs c && rhs c
    | .minus => fun c => lhs c && !rhs c
    | .either => fun c => lhs c != rhs c

/-- Add a set. -/
def ClassParts.add (s : ClassParts) (p : Char → Bool) : ClassParts :=
  { s with current := fun c => s.current c || p c }

/-- An operation between sets. -/
def ClassParts.operate (flags : Flags) (s : ClassParts) (op : SetOperation) : ClassParts :=
  ⟨some (s.total flags, op), fun _ => false⟩

/-- A class of ASCII characters by its name between colons, from after the bracket on. -/
def namedClass? (cs : List Char) : Option ((Char → Bool) × List Char) :=
  match cs with
  | ':' :: rest =>
    let (negated, rest) := match rest with
      | '^' :: rest' => (true, rest')
      | _ => (false, rest)
    match rest.dropWhile (· != ':') with
    | ':' :: ']' :: rest' =>
      (asciiClass? (String.ofList (rest.takeWhile (· != ':')))).map fun p =>
        (if negated then fun c => !p c else p, rest')
    | _ => none
  | _ => none

/-- A single member of a class: a character or a set. -/
def classItem? (flags : Flags) (cs : List Char) : Option (Escaped × List Char) :=
  match cs with
  | [] => none
  | '\\' :: rest =>
    match escape? flags rest with
    | some (.look _, _) => none
    | r => r
  | c :: rest => if !flags.unicode && c.toNat ≥ 128 then none else some (.literal c, rest)

/-- The code point of a single character. -/
def Escaped.code? : Escaped → Option Nat
  | literal c => some c.toNat
  | byte n => some n
  | _ => none

/-- A member of a class or a range of characters. -/
def classRange? (flags : Flags) (cs : List Char) : Option ((Char → Bool) × List Char) :=
  (classItem? flags cs).bind fun (first, rest) =>
    let single := match first with
      | .set p => p
      | e => fun c => some c.toNat == e.code?
    match skip flags rest with
    | [] => none
    | '-' :: rest' =>
      let next := skip flags rest'
      if next.head? == some ']' || next.head? == some '-' then some (single, '-' :: rest')
      else
        (classItem? flags next).bind fun (last, rest) =>
          match first.code?, last.code? with
          | some lo, some hi => if lo ≤ hi then some (fun c => lo ≤ c.toNat && c.toNat ≤ hi, rest) else none
          | _, _ => none
    | rest => some (single, rest)

/-- Hyphens at the start of a class stand for themselves. -/
def leadingHyphens (flags : Flags) : Nat → List Char → Bool × List Char
  | 0, cs => (false, cs)
  | fuel + 1, cs =>
    match skip flags cs with
    | '-' :: rest => (true, (leadingHyphens flags fuel rest).2)
    | rest => (false, rest)

/-- The start of a class after its bracket: is it negated, and what stands for itself at its start? -/
def classStart (flags : Flags) (cs : List Char) : Bool × ClassParts × List Char :=
  let cs := skip flags cs
  let (negated, cs) := match cs with
    | '^' :: rest => (true, rest)
    | _ => (false, cs)
  let (hyphen, cs) := leadingHyphens flags (cs.length + 1) cs
  let (bracket, cs) := match hyphen, cs with
    | false, ']' :: rest => (true, rest)
    | _, _ => (false, cs)
  (negated, ⟨none, fun c => (hyphen && c == '-') || (bracket && c == ']')⟩, cs)

/-- The rest of a class up to its closing bracket. -/
def classRest? (flags : Flags) : Nat → Bool → ClassParts → List Char → Option ((Char → Bool) × List Char)
  | 0, _, _, _ => none
  | fuel + 1, negated, s, cs =>
    match skip flags cs with
    | [] => none
    | '[' :: rest =>
      match namedClass? rest with
      | some (p, rest) => classRest? flags fuel negated (s.add p) rest
      | none =>
        let (negated', inner, rest) := classStart flags rest
        match classRest? flags fuel negated' inner rest with
        | none => none
        | some (p, rest) => classRest? flags fuel negated (s.add p) rest
    | ']' :: rest =>
      let p := folded flags (s.total flags)
      some (if negated then fun c => !p c else p, rest)
    | '&' :: '&' :: rest => classRest? flags fuel negated (s.operate flags .meet) rest
    | '-' :: '-' :: rest => classRest? flags fuel negated (s.operate flags .minus) rest
    | '~' :: '~' :: rest => classRest? flags fuel negated (s.operate flags .either) rest
    | rest =>
      match classRange? flags rest with
      | none => none
      | some (p, rest) => classRest? flags fuel negated (s.add p) rest

/-- A class after its opening bracket. -/
def class? (flags : Flags) (cs : List Char) : Option (Pattern × List Char) :=
  let (negated, s, rest) := classStart flags cs
  (classRest? flags (2 * cs.length + 2) negated s rest).bind fun (p, rest) => (set? flags p).map (·, rest)

/-! ## Repetition -/

/-- A decimal number among blanks. -/
def count? (cs : List Char) : Option Nat × List Char :=
  let cs := cs.dropWhile isBlank
  let digits := cs.takeWhile Char.isDigit
  let value := digits.foldl (fun n c => 10 * n + (c.toNat - 48)) 0
  (if digits.isEmpty ∨ value ≥ 0x100000000 then none else some value, (cs.drop digits.length).dropWhile isBlank)

/-- A question mark after a repetition changes nothing about what it matches. -/
def dropLazy (cs : List Char) : List Char :=
  match cs with
  | '?' :: rest => rest
  | _ => cs

/-- The bounds of a repetition, from after the brace on. -/
def bounds? (flags : Flags) (cs : List Char) : Option ((Nat × Option Nat) × List Char) :=
  let cs := if flags.spaced then skip flags cs else cs
  match count? cs with
  | (none, _) => none
  | (some min, rest) =>
    match skip flags rest with
    | '\x7d' :: rest => some ((min, some min), dropLazy (skip flags rest))
    | ',' :: rest =>
      match skip flags rest with
      | '\x7d' :: rest => some ((min, none), dropLazy (skip flags rest))
      | rest =>
        match count? rest with
        | (some max, '\x7d' :: rest) => if min ≤ max then some ((min, some max), dropLazy (skip flags rest)) else none
        | _ => none
    | _ => none

/-! ## Groups and sequences -/

/-- Set a flag by its letter. -/
def Flags.set? (flags : Flags) (c : Char) (on : Bool) : Option Flags :=
  match c with
  | 'i' => some { flags with fold := on }
  | 'm' => some { flags with lines := on }
  | 's' => some { flags with dotAll := on }
  | 'U' => some { flags with swapGreed := on }
  | 'x' => some { flags with spaced := on }
  | 'u' => some { flags with unicode := on }
  | 'R' => some { flags with returns := on }
  | _ => none

/-- Flags up to a colon, which starts a group, or a parenthesis, which ends the directive. No flag and no minus stands
twice, and a minus is not the last. `seen` holds the letters so far, last first. -/
def flags? : Flags → List Char → List Char → Option (Flags × Bool × List Char)
  | _, _, [] => none
  | flags, seen, c :: rest =>
    if c == ':' || c == ')' then if seen.head? == some '-' then none else some (flags, c == ':', rest)
    else if seen.contains c then none
    else if c == '-' then flags? flags (c :: seen) rest
    else
      match flags.set? c (!seen.contains '-') with
      | none => none
      | some flags => flags? flags (c :: seen) rest

/-- The start of a group. -/
inductive GroupStart where
  /-- A group under flags, with the name of what it captures. -/
  | group (flags : Flags) (name : Option String)
  /-- Flags for what follows. -/
  | directive (flags : Flags)

/-- May a character stand in the name of a group? -/
def isGroupNameChar (first : Bool) (c : Char) : Bool :=
  c == '_' || isAlphabetic c ||
    (!first && (c == '.' || c == '[' || c == ']' || inCategories ["nd", "nl", "no"] c))

/-- The name of a group up to its angle bracket. -/
def groupName? (cs : List Char) : Option (String × List Char) :=
  let name := cs.takeWhile (· != '>')
  match name, cs.drop name.length with
  | c :: more, _ :: rest =>
    if isGroupNameChar true c && more.all (isGroupNameChar false) then some (String.ofList name, rest) else none
  | _, _ => none

/-- The start of a group after its parenthesis. -/
def groupStart? (flags : Flags) (cs : List Char) : Option (GroupStart × List Char) :=
  let named := fun (rest : List Char) => (groupName? rest).map fun (name, rest) => (GroupStart.group flags (some name), rest)
  match skip flags cs with
  | '?' :: '=' :: _ => none
  | '?' :: '!' :: _ => none
  | '?' :: '<' :: '=' :: _ => none
  | '?' :: '<' :: '!' :: _ => none
  | '?' :: 'P' :: '<' :: rest => named rest
  | '?' :: '<' :: rest => named rest
  | '?' :: ')' :: _ => none
  | '?' :: rest =>
    (flags? flags [] rest).map fun (flags, isGroup, rest) =>
      (if isGroup then .group flags none else .directive flags, rest)
  | rest => some (.group flags none, rest)

/-- The place of `^`. -/
def lineStart (flags : Flags) : Option Char → Option Char → Bool := fun before after =>
  match before with
  | none => true
  | some c =>
    flags.lines && (c == '\n' || (flags.returns && c == '\r' && after != some '\n'))

/-- The place of `$`. -/
def lineEnd (flags : Flags) : Option Char → Option Char → Bool := fun before after =>
  match after with
  | none => true
  | some c =>
    flags.lines &&
      (if flags.returns then c == '\r' || (c == '\n' && before != some '\r') else c == '\n')

/-- What the dot matches. -/
def dot? (flags : Flags) : Option Pattern :=
  if !flags.unicode then none
  else if flags.dotAll then some (.char fun _ => true)
  else some (.char fun c => c != '\n' && !(flags.returns && c == '\r'))

/-- A character that stands for itself. -/
def literal (flags : Flags) (c : Char) : Pattern := .char (folded flags (· == c))

/-- What an escape matches. -/
def escapedPattern? (flags : Flags) : Escaped → Option Pattern
  | .literal c => some (literal flags c)
  | .byte _ => none
  | .set p => set? flags p
  | .look p => some (.look p)

/-- A sequence of parts, last first. A directive is no part. -/
def sequenceOf (parts : List (Option Pattern)) : Pattern :=
  (parts.filterMap id).foldl (fun acc p => match acc with
    | .empty => p
    | acc => .seq p acc) .empty

/-- What was read of a group: the alternatives before, last first, and the parts of the current one, last first. A
directive leaves a part that cannot be repeated. -/
structure GroupParts where
  before : List Pattern
  parts : List (Option Pattern)

/-- The pattern of a group. -/
def GroupParts.total (g : GroupParts) : Pattern := g.before.foldl (fun acc p => .alt p acc) (sequenceOf g.parts)

/-- Repeat the last part. -/
def GroupParts.repeatLast? (g : GroupParts) (min : Nat) (max : Option Nat) : Option GroupParts :=
  match g.parts with
  | some p :: parts => some { g with parts := some (.repeated p min max) :: parts }
  | _ => none

/-- Add a part. -/
def GroupParts.add (g : GroupParts) (p : Pattern) : GroupParts := { g with parts := some p :: g.parts }

/-- Read a group, or the whole pattern. `names` are those of the groups so far; each is given once. -/
def group? : Nat → Bool → Flags → List String → GroupParts → List Char →
    Option (Pattern × List String × List Char)
  | 0, _, _, _, _, _ => none
  | fuel + 1, isInner, flags, names, g, cs =>
    let next := fun (r : Option (Pattern × List Char)) =>
      match r with
      | none => none
      | some (p, rest) => group? fuel isInner flags names (g.add p) rest
    let again := fun (min : Nat) (max : Option Nat) (rest : List Char) =>
      match g.repeatLast? min max with
      | none => none
      | some g => group? fuel isInner flags names g rest
    match skip flags cs with
    | [] => if isInner then none else some (g.total, names, [])
    | ')' :: rest => if isInner then some (g.total, names, rest) else none
    | '|' :: rest => group? fuel isInner flags names ⟨sequenceOf g.parts :: g.before, []⟩ rest
    | '(' :: rest =>
      match groupStart? flags rest with
      | none => none
      | some (.directive flags, rest) =>
        group? fuel isInner flags names { g with parts := none :: g.parts } rest
      | some (.group inner name, rest) =>
        if name.any names.contains then none
        else
          match group? fuel true inner (name.toList ++ names) ⟨[], []⟩ rest with
          | none => none
          | some (p, names, rest) => group? fuel isInner flags names (g.add p) rest
    | '[' :: rest => next (class? flags rest)
    | '?' :: rest => again 0 (some 1) (dropLazy rest)
    | '*' :: rest => again 0 none (dropLazy rest)
    | '+' :: rest => again 1 none (dropLazy rest)
    | '\x7b' :: rest =>
      match bounds? flags rest with
      | none => none
      | some ((min, max), rest) => again min max rest
    | '.' :: rest => next ((dot? flags).map (·, rest))
    | '^' :: rest => next (some (.look (lineStart flags), rest))
    | '$' :: rest => next (some (.look (lineEnd flags), rest))
    | '\\' :: rest =>
      next ((escape? flags rest).bind fun (e, rest) => (escapedPattern? flags e).map (·, rest))
    | c :: rest => next (some (literal flags c, rest))

/-- The pattern that a text writes. Each step takes a character. -/
def ofString? (text : String) : Option Pattern :=
  (group? (text.length + 1) false {} [] ⟨[], []⟩ text.toList).map fun r => r.1

end ConfigCoverage.Pattern
