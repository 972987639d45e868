/-!
# Sets of characters as tables

A property of characters is given as text: code points and ranges of code points in hexadecimal, ascending, between
blanks (`41-5A 61-7A AA`). A mapping of characters is given the same way, each range followed by the image of its first
character (`41-5A>61`); `/2` after a range takes every other character of it.
-/

namespace ConfigCoverage

/-- The value of a hexadecimal numeral; other characters count as `0`. -/
def hexValue (cs : List Char) : Nat :=
  cs.foldl (fun n c =>
    n * 16 + (if '0' ≤ c ∧ c ≤ '9' then c.toNat - 48
      else if 'A' ≤ c ∧ c ≤ 'F' then c.toNat - 55
      else if 'a' ≤ c ∧ c ≤ 'f' then c.toNat - 87
      else 0)) 0

/-- The pieces of `cs` between characters that satisfy `p`, empty pieces left out. -/
def pieces (p : Char → Bool) (cs : List Char) : List (List Char) :=
  let step := fun (acc : List Char × List (List Char)) (c : Char) =>
    if p c then ([], if acc.1.isEmpty then acc.2 else acc.1 :: acc.2) else (c :: acc.1, acc.2)
  let last := cs.foldl step ([], [])
  ((if last.1.isEmpty then last.2 else last.1 :: last.2).map List.reverse).reverse

/-- A set of characters: the code points between a bound at an even place, included, and the next bound, excluded. -/
structure CharTable where
  bounds : Array Nat

namespace CharTable

/-- Read one range. -/
def rangeBounds (cs : List Char) : List Nat :=
  let lo := hexValue (cs.takeWhile (· != '-'))
  match cs.dropWhile (· != '-') with
  | [] => [lo, lo + 1]
  | _ :: hi => [lo, hexValue hi + 1]

/-- Read a table. -/
def ofString (s : String) : CharTable :=
  ⟨((pieces (fun c => c == ' ' || c == '\n') s.toList).flatMap rangeBounds).toArray⟩

/-- The number of bounds that are at most `n`, sought between `lo` and `hi`. -/
def countUpTo (bounds : Array Nat) (n : Nat) : Nat → Nat → Nat → Nat
  | 0, lo, _ => lo
  | fuel + 1, lo, hi =>
    if hi ≤ lo then lo
    else
      let mid := (lo + hi) / 2
      if bounds.getD mid 0 ≤ n then countUpTo bounds n fuel (mid + 1) hi else countUpTo bounds n fuel lo mid

/-- Is `c` in the table? -/
def contains (t : CharTable) (c : Char) : Bool :=
  countUpTo t.bounds c.toNat t.bounds.size 0 t.bounds.size % 2 == 1

end CharTable

/-- Characters `lo`, `lo + step`, … up to `hi`, each mapped by the same distance, `lo` to `image`. -/
structure CharRun where
  lo : Nat
  hi : Nat
  step : Nat
  image : Nat

namespace CharRun

/-- Read one run. -/
def ofChars (cs : List Char) : CharRun :=
  let source := cs.takeWhile (· != '>')
  let image := hexValue ((cs.dropWhile (· != '>')).drop 1)
  let range := source.takeWhile (· != '/')
  let lo := hexValue (range.takeWhile (· != '-'))
  let hi := match range.dropWhile (· != '-') with
    | [] => lo
    | _ :: h => hexValue h
  ⟨lo, hi, if source.contains '/' then 2 else 1, image⟩

/-- Does the run map `n`? -/
def covers (r : CharRun) (n : Nat) : Bool := r.lo ≤ n && n ≤ r.hi && (n - r.lo) % r.step == 0

/-- Read a table of runs. -/
def table (s : String) : Array CharRun :=
  ((pieces (fun c => c == ' ' || c == '\n') s.toList).map ofChars).toArray

/-- The image of `c` under a table; a character outside it is its own image. -/
def apply (runs : Array CharRun) (c : Char) : Char :=
  match runs.find? (·.covers c.toNat) with
  | some r => Char.ofNat (c.toNat - r.lo + r.image)
  | none => c

/-- The characters that a table maps to `c`. -/
def preimages (runs : Array CharRun) (c : Char) : List Char :=
  runs.toList.filterMap fun r =>
    let n := c.toNat - r.image + r.lo
    if r.image ≤ c.toNat && r.covers n then some (Char.ofNat n) else none

end CharRun

end ConfigCoverage
