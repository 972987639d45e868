import ConfigCoverage.Pattern.Basic

/-!
# Globs

A glob describes paths: `*` stands for any text, `?` for one byte, `**` between slashes for any number of directories,
`[ab]` for one of some bytes, and `{a,b}` for one of two globs. A path is matched as a whole, by the bytes of its UTF-8
form.

* `Glob.ofString?`: the glob that a text writes.
* `Glob.accepts`: does it describe a path?
-/

namespace ConfigCoverage

/-- A part of a glob. -/
inductive GlobPart where
  | literal (c : Char)
  /-- One byte. -/
  | any
  | star
  /-- Directories in front of the rest, or none. -/
  | leadingDirectories
  /-- All that is inside. -/
  | inside
  /-- A slash, or directories between two slashes. -/
  | innerDirectories
  | oneOf (negated : Bool) (ranges : List (Char × Char))
  | alternatives (branches : List (List GlobPart))
deriving Inhabited

/-- A glob, and whether its wildcards may stand for a slash. -/
structure Glob where
  parts : List GlobPart
  crossesSlashes : Bool

namespace Glob

/-! ## Reading -/

/-- The state of a class in brackets. -/
structure ClassState where
  ranges : List (Char × Char) := []
  /-- Right after the opening bracket? -/
  first : Bool := true
  /-- Right after a dash that may join two characters? -/
  afterDash : Bool := false

namespace ClassState

/-- Let the last range end at `c`. -/
def close? (s : ClassState) (c : Char) : Option ClassState :=
  match s.ranges.getLast? with
  | some (low, _) => if c < low then none else some ⟨s.ranges.dropLast ++ [(low, c)], false, false⟩
  | none => none

/-- Take one more character. -/
def push? (s : ClassState) (c : Char) : Option ClassState :=
  if s.first then some ⟨[(c, c)], false, false⟩
  else if s.afterDash then s.close? c
  else if c = '-' then some { s with afterDash := true }
  else some ⟨s.ranges ++ [(c, c)], false, false⟩

/-- The ranges; a dash at the end stands for itself. -/
def finish (s : ClassState) : List (Char × Char) := if s.afterDash then s.ranges ++ [('-', '-')] else s.ranges

end ClassState

/-- The ranges up to the closing bracket, and what follows it. -/
def readClass? (s : ClassState) : List Char → Option (List (Char × Char) × List Char)
  | [] => none
  | c :: rest =>
    if c = ']' && !s.first then some (s.finish, rest)
    else (s.push? c).bind fun s => readClass? s rest

/-- The class after an opening bracket, and what follows it. -/
def readClass (cs : List Char) : Option (GlobPart × List Char) :=
  let negated := cs.head? == some '!' || cs.head? == some '^'
  (readClass? {} (if negated then cs.drop 1 else cs)).map fun (ranges, rest) => (.oneOf negated ranges, rest)

/-- What was read: the branch at hand, the branches before it, and the same of each group around. -/
structure ReadState where
  branch : List GlobPart := []
  before : List (List GlobPart) := []
  /-- The groups around, the innermost first. -/
  outer : List (List GlobPart × List (List GlobPart)) := []

namespace ReadState

/-- Add parts to the branch at hand. -/
def push (s : ReadState) (parts : List GlobPart) : ReadState := { s with branch := s.branch ++ parts }

/-- Inside braces? -/
def isNested (s : ReadState) : Bool := !s.outer.isEmpty

/-- Open a brace. -/
def openGroup (s : ReadState) : ReadState := ⟨[], [], (s.branch, s.before) :: s.outer⟩

/-- Go on with the next branch. -/
def nextBranch (s : ReadState) : ReadState := { s with branch := [], before := s.before ++ [s.branch] }

/-- Close a brace. -/
def closeGroup? (s : ReadState) : Option ReadState :=
  match s.outer with
  | [] => none
  | (branch, before) :: outer => some ⟨branch ++ [.alternatives (s.before ++ [s.branch])], before, outer⟩

/-- The last part, which was a slash, and a double star after it, become one. -/
def absorb (s : ReadState) (part : GlobPart) : ReadState :=
  let part :=
    match s.branch.getLast? with
    | some .leadingDirectories => .leadingDirectories
    | some .inside => .inside
    | _ => part
  { s with branch := s.branch.dropLast ++ [part] }

end ReadState

/-- Read a double star that follows the character `before`: the new state, and what is left of `cs`. -/
def readDoubleStar (before : Option Char) (s : ReadState) (cs : List Char) : ReadState × List Char :=
  if s.branch.isEmpty then
    match cs with
    | [] => (s.push [.leadingDirectories], [])
    | '/' :: rest => (s.push [.leadingDirectories], rest)
    | _ => (s.push [.star, .star], cs)
  else if before = some '/' || s.isNested && (before = some ',' || before = some '\x7b') then
    match cs with
    | [] => (s.absorb .inside, [])
    | '/' :: rest => (s.absorb .innerDirectories, rest)
    | c :: _ =>
      if s.isNested && (c = ',' || c = '\x7d') then (s.absorb .inside, cs) else (s.push [.star, .star], cs)
  else (s.push [.star, .star], cs)

/-- Read the rest of a glob after the character `before`, in `fuel` rounds; each takes a character at least. -/
def readParts? (fuel : Nat) (before : Option Char) (s : ReadState) (cs : List Char) : Option (List GlobPart) :=
  match fuel, cs with
  | _, [] => if s.isNested then none else some s.branch
  | 0, _ => none
  | fuel + 1, c :: rest =>
    match c with
    | '?' => readParts? fuel (some c) (s.push [.any]) rest
    | '*' =>
      match rest with
      | '*' :: after =>
        let (s, left) := readDoubleStar before s after
        readParts? fuel (if left.length < after.length then some '/' else some '*') s left
      | _ => readParts? fuel (some c) (s.push [.star]) rest
    | '[' => (readClass rest).bind fun (part, rest) => readParts? fuel (some ']') (s.push [part]) rest
    | '\x7b' => readParts? fuel (some c) s.openGroup rest
    | '\x7d' => s.closeGroup?.bind fun s => readParts? fuel (some c) s rest
    | ',' => readParts? fuel (some c) (if s.isNested then s.nextBranch else s.push [.literal c]) rest
    | '\\' =>
      match rest with
      | [] => none
      | escaped :: rest => readParts? fuel (some escaped) (s.push [.literal escaped]) rest
    | _ => readParts? fuel (some c) (s.push [.literal c]) rest

/-- The glob that a text writes. -/
def ofString? (text : String) (crossesSlashes : Bool) : Option Glob :=
  (readParts? text.length none {} text.toList).map fun parts => ⟨parts, crossesSlashes⟩

/-! ## Matching -/

/-- The bytes of a text, each as a character. -/
def bytesOf (text : String) : List Char := text.toUTF8.data.toList.map fun b => Char.ofNat b.toNat

/-- The byte `b` of a text. -/
def byte (b : Char) : Pattern := .char (· == b)

/-- Any byte. -/
def anyByte : Pattern := .char fun _ => true

/-- A slash. -/
def slash : Pattern := byte '/'

/-- The ranges of bytes that a range of characters stands for: its ends are written in bytes, with the dash between
the last byte of the one and the first of the other. -/
def byteRanges (range : Char × Char) : List (Char × Char) :=
  let single (cs : List Char) := cs.map fun c => (c, c)
  let low := bytesOf range.1.toString
  if range.1 = range.2 then single low
  else
    let high := bytesOf range.2.toString
    match low.getLast?, high with
    | some l, h :: rest => single low.dropLast ++ [(l, h)] ++ single rest
    | _, _ => []

/-- Is a byte in one of some ranges? -/
def inRanges (ranges : List (Char × Char)) (b : Char) : Bool := ranges.any fun (low, high) => low ≤ b && b ≤ high

/-- One of some patterns. -/
def anyOf : List Pattern → Pattern
  | [] => .empty
  | [p] => p
  | p :: ps => .alt p (anyOf ps)

mutual

/-- The pattern of a part, given that of a wildcard for one byte; `none` if there is nothing to match. -/
def patternOf (wild : Pattern) : GlobPart → Option Pattern
  | .literal c => some (.all ((bytesOf c.toString).map byte))
  | .any => some wild
  | .star => some wild.star
  | .leadingDirectories => some (.alt (.alt .empty slash) (.seq anyByte.star slash))
  | .inside => some (.seq slash anyByte.star)
  | .innerDirectories => some (.alt slash (.all [slash, anyByte.star, slash]))
  | .oneOf negated ranges => some (.char fun b => inRanges (ranges.flatMap byteRanges) b != negated)
  | .alternatives branches =>
    match branchPatterns wild branches with
    | [] => none
    | ps => some (anyOf ps)

/-- The patterns of parts, one after the other. -/
def sequencePattern (wild : Pattern) : List GlobPart → Option Pattern
  | [] => none
  | part :: parts =>
    match patternOf wild part, sequencePattern wild parts with
    | some p, some q => some (.seq p q)
    | some p, none => some p
    | none, q => q

/-- The patterns of branches; one with nothing to match is left out. -/
def branchPatterns (wild : Pattern) : List (List GlobPart) → List Pattern
  | [] => []
  | branch :: branches =>
    match sequencePattern wild branch with
    | some p => p :: branchPatterns wild branches
    | none => branchPatterns wild branches

end

/-- What a wildcard for one byte stands for. -/
def wildcard (g : Glob) : Pattern := if g.crossesSlashes then anyByte else .char (· != '/')

/-- The pattern of a glob. A double star alone stands for everything. -/
def pattern (g : Glob) : Pattern :=
  match g.parts with
  | [.leadingDirectories] => anyByte.star
  | parts => (sequencePattern g.wildcard parts).getD .empty

/-- Does a glob describe a path? -/
def accepts (g : Glob) (path : String) : Bool := g.pattern.matchesAll (bytesOf path).toArray

end Glob

end ConfigCoverage
