import ConfigCoverage.Binding

/-!
# Names of types

The name of a type reference is found by cuts: before the first `<`, before the pairs of brackets at the end, after the
last dot. References are written here as they are built (`TypeRef`), so that the name found can be compared with the
name of the last segment.

* `simpleTypeChars_qualified`: a qualifier in front of any text at all makes no difference.
* `TypeRef.simpleTypeChars_chars`, `simpleTypeChars_pairs`: which name the cuts leave, and which brackets with it.
* `simpleTypeName_typeRef`: for which references the name found is that of the last segment.
-/

namespace ConfigCoverage

/-! ## Trimming -/

theorem dropWhile_of_forall {p : Char → Bool} {cs : List Char} (h : ∀ c ∈ cs, p c = true) : cs.dropWhile p = [] := by
  have hdrop : (cs ++ []).dropWhile p = ([] : List Char).dropWhile p := List.dropWhile_append_of_pos h
  rwa [List.append_nil, List.dropWhile_nil] at hdrop

theorem dropEndWhile_append {p : Char → Bool} {tail : List Char} (h : ∀ c ∈ tail, p c = true) (cs : List Char) :
    dropEndWhile p (cs ++ tail) = dropEndWhile p cs := by
  rw [dropEndWhile, List.reverse_append, List.dropWhile_append_of_pos fun c hc => h c (List.mem_reverse.1 hc),
    dropEndWhile]

theorem exists_dropEndWhile (p : Char → Bool) (cs : List Char) :
    ∃ tail : List Char, (∀ c ∈ tail, p c = true) ∧ cs = dropEndWhile p cs ++ tail := by
  refine ⟨(cs.reverse.takeWhile p).reverse, fun c hc => ?_, ?_⟩
  · exact List.all_eq_true.1 List.all_takeWhile c (List.mem_reverse.1 hc)
  · rw [dropEndWhile, ← List.reverse_append, List.takeWhile_append_dropWhile, List.reverse_reverse]

theorem trimBlank_append_left {blanks : List Char} (h : ∀ c ∈ blanks, isBlank c = true) (cs : List Char) :
    trimBlank (blanks ++ cs) = trimBlank cs := by
  rw [trimBlank, List.dropWhile_append_of_pos h, trimBlank]

theorem trimBlank_append_right {blanks : List Char} (h : ∀ c ∈ blanks, isBlank c = true) (cs : List Char) :
    trimBlank (cs ++ blanks) = trimBlank cs := by
  rw [trimBlank, List.dropWhile_append, trimBlank]
  split
  · next hcs => rw [List.isEmpty_iff.1 hcs, dropWhile_of_forall h]
  · exact dropEndWhile_append h _

/-- Trimming takes blanks off both ends. -/
theorem exists_trimBlank (cs : List Char) :
    ∃ front back : List Char, (∀ c ∈ front, isBlank c = true) ∧ (∀ c ∈ back, isBlank c = true) ∧
      cs = front ++ (trimBlank cs ++ back) := by
  obtain ⟨back, hback, hcs⟩ := exists_dropEndWhile isBlank (cs.dropWhile isBlank)
  refine ⟨cs.takeWhile isBlank, back, List.all_eq_true.1 List.all_takeWhile, hback, ?_⟩
  rw [trimBlank, ← hcs, List.takeWhile_append_dropWhile]

theorem not_mem_of_blank {blanks : List Char} (h : ∀ c ∈ blanks, isBlank c = true) {c : Char} (hc : isBlank c = false) :
    c ∉ blanks := fun hmem => by
  rw [h c hmem] at hc
  cases hc

/-- A text stays as it is if neither its first nor its last character is blank. -/
theorem trimBlank_of_ends {cs : List Char} (hfirst : ∀ c, cs.head? = some c → isBlank c = false)
    (hlast : ∀ c, cs.getLast? = some c → isBlank c = false) : trimBlank cs = cs := by
  have keep : ∀ ds : List Char, (∀ c, ds.head? = some c → isBlank c = false) → ds.dropWhile isBlank = ds := by
    intro ds hds
    cases ds with
    | nil => rfl
    | cons d ds => exact List.dropWhile_cons_of_neg (by simp [hds d rfl])
  rw [trimBlank, keep cs hfirst, dropEndWhile, keep cs.reverse fun c hc => hlast c (by rwa [List.head?_reverse] at hc),
    List.reverse_reverse]

/-! ## Cuts -/

section Cuts

variable {sep : Char} {cs : List Char}

theorem takeWhile_append_of_not_mem (h : sep ∉ cs) (ds : List Char) :
    (cs ++ ds).takeWhile (· != sep) = cs ++ ds.takeWhile (· != sep) :=
  List.takeWhile_append_of_pos fun _ hc => bne_iff_ne.2 fun heq => h (heq ▸ hc)

theorem takeWhile_append_sep (sep : Char) (cs ds : List Char) :
    (cs ++ sep :: ds).takeWhile (· != sep) = cs.takeWhile (· != sep) := by
  induction cs with
  | nil => simp
  | cons c cs ih => simp only [List.cons_append, List.takeWhile_cons, ih]

theorem takeWhile_of_not_mem (h : sep ∉ cs) : cs.takeWhile (· != sep) = cs := by
  simpa using takeWhile_append_of_not_mem h []

/-- What stands before a separator does not matter. -/
theorem afterLast_append_sep (sep : Char) (front cs : List Char) :
    afterLast sep (front ++ sep :: cs) = afterLast sep cs := by
  rw [afterLast, List.reverse_append, List.reverse_cons, List.append_assoc, List.singleton_append,
    takeWhile_append_sep, afterLast]

theorem afterLast_of_not_mem (h : sep ∉ cs) : afterLast sep cs = cs := by
  rw [afterLast, takeWhile_of_not_mem (by simpa using h), List.reverse_reverse]

theorem afterLast_append {tail : List Char} (h : sep ∉ tail) (cs : List Char) :
    afterLast sep (cs ++ tail) = afterLast sep cs ++ tail := by
  rw [afterLast, List.reverse_append, takeWhile_append_of_not_mem (by simpa using h), List.reverse_append,
    List.reverse_reverse, afterLast]

end Cuts

theorem trimBlank_afterLast_append_left {blanks : List Char} (h : ∀ c ∈ blanks, isBlank c = true) (cs : List Char) :
    trimBlank (afterLast '.' (blanks ++ cs)) = trimBlank (afterLast '.' cs) := by
  by_cases hdot : '.' ∈ cs
  · obtain ⟨front, back, rfl, -⟩ := List.eq_append_cons_of_mem hdot
    rw [← List.append_assoc, afterLast_append_sep, afterLast_append_sep]
  · have hall : '.' ∉ blanks ++ cs := List.not_mem_append (not_mem_of_blank h (by decide)) hdot
    rw [afterLast_of_not_mem hall, afterLast_of_not_mem hdot, trimBlank_append_left h]

/-- Blanks at the ends of the whole text go with those at the ends of its last part. -/
theorem trimBlank_afterLast_trimBlank (cs : List Char) :
    trimBlank (afterLast '.' (trimBlank cs)) = trimBlank (afterLast '.' cs) := by
  obtain ⟨front, back, hfront, hback, hcs⟩ := exists_trimBlank cs
  calc trimBlank (afterLast '.' (trimBlank cs))
      = trimBlank (afterLast '.' (trimBlank cs) ++ back) := (trimBlank_append_right hback _).symm
    _ = trimBlank (afterLast '.' (trimBlank cs ++ back)) := by
        rw [afterLast_append (not_mem_of_blank hback (by decide))]
    _ = trimBlank (afterLast '.' (front ++ (trimBlank cs ++ back))) :=
        (trimBlank_afterLast_append_left hfront _).symm
    _ = trimBlank (afterLast '.' cs) := by rw [← hcs]

/-- The cuts, with the one trimming that matters. -/
theorem simpleTypeChars_eq (cs : List Char) :
    simpleTypeChars cs =
      trimBlank (afterLast '.' (dropBracketPairs (cs.takeWhile (· != '<')).reverse).reverse) :=
  trimBlank_afterLast_trimBlank _

/-! ## Qualifiers -/

theorem dropBracketPairs_append_dot (rs ds : List Char) :
    dropBracketPairs (rs ++ '.' :: ds) = dropBracketPairs rs ++ '.' :: ds := by
  fun_induction dropBracketPairs rs with
  | case1 rs ih => exact ih
  | case2 rs hrs =>
    refine dropBracketPairs.eq_2 _ fun rest heq => ?_
    cases rs with
    | nil => cases heq
    | cons c rs =>
      cases rs with
      | nil => cases heq
      | cons d rs =>
        cases heq
        exact hrs rs rfl

/-- A qualifier makes no difference, whatever stands behind its dot. -/
theorem simpleTypeChars_qualified {q : List Char} (h : '<' ∉ q) (cs : List Char) :
    simpleTypeChars (q ++ '.' :: cs) = simpleTypeChars cs := by
  have hcut : (q ++ '.' :: cs).takeWhile (· != '<') = q ++ '.' :: cs.takeWhile (· != '<') := by
    rw [takeWhile_append_of_not_mem h, List.takeWhile_cons_of_pos (by decide)]
  rw [simpleTypeChars_eq, hcut, List.reverse_append, List.reverse_cons, List.append_assoc, List.singleton_append,
    dropBracketPairs_append_dot, List.reverse_append, List.reverse_cons, List.append_assoc, List.singleton_append,
    afterLast_append_sep, simpleTypeChars_eq]

theorem simpleTypeName_qualified {q : String} (h : '<' ∉ q.toList) (s : String) :
    simpleTypeName (q ++ "." ++ s) = simpleTypeName s := by
  have hchars : (q ++ "." ++ s).toList = q.toList ++ '.' :: s.toList := by
    rw [String.toList_append, String.toList_append, List.append_assoc]
    rfl
  rw [simpleTypeName, hchars, simpleTypeChars_qualified h, simpleTypeName]

/-! ## Arguments and brackets -/

/-- Nothing from the first `<` on is looked at. -/
theorem simpleTypeChars_append_angle (cs tail : List Char) : simpleTypeChars (cs ++ '<' :: tail) = simpleTypeChars cs := by
  rw [simpleTypeChars, takeWhile_append_sep, simpleTypeChars]

/-- A pair of brackets at the very end makes no difference. -/
theorem simpleTypeChars_append_pair (cs : List Char) : simpleTypeChars (cs ++ ['[', ']']) = simpleTypeChars cs := by
  by_cases h : '<' ∈ cs
  · obtain ⟨front, back, rfl, -⟩ := List.eq_append_cons_of_mem h
    rw [List.append_assoc, List.cons_append, simpleTypeChars_append_angle, simpleTypeChars_append_angle]
  · have hpair : (cs ++ ['[', ']']).takeWhile (· != '<') = cs ++ ['[', ']'] :=
      takeWhile_of_not_mem (List.not_mem_append h (by decide))
    rw [simpleTypeChars, hpair, List.reverse_append, simpleTypeChars, takeWhile_of_not_mem h]
    rfl

/-- Where there is nothing to cut, the name is the whole text. -/
theorem simpleTypeChars_of_uncut {cs : List Char} (hangle : '<' ∉ cs) (hdot : '.' ∉ cs) (hend : cs.getLast? ≠ some ']') :
    simpleTypeChars cs = trimBlank cs := by
  have hpairs : dropBracketPairs cs.reverse = cs.reverse := by
    refine dropBracketPairs.eq_2 _ fun rest heq => hend ?_
    rw [← List.head?_reverse, heq]
    rfl
  rw [simpleTypeChars_eq, takeWhile_of_not_mem hangle, hpairs, List.reverse_reverse, afterLast_of_not_mem hdot]

/-! ## Type references -/

/-- Can a character stand in the name of a type? -/
def isNameChar (c : Char) : Bool := !isBlank c && !(['.', '<', '>', '[', ']'].contains c)

/-- The name of a type, or of what a type stands in. -/
@[ext]
structure TypeIdent where
  chars : List Char
  ne_nil : chars ≠ []
  isName : ∀ c ∈ chars, isNameChar c = true

/-- White space, perhaps none. -/
structure Spaces where
  chars : List Char
  isBlank : ∀ c ∈ chars, isBlank c = true

/-- Do the angle brackets of a text pair up, with `depth` of them open before it? -/
def isBalanced : Nat → List Char → Bool
  | depth, [] => depth == 0
  | depth, c :: cs =>
    if c = '<' then isBalanced (depth + 1) cs
    else if c = '>' then depth != 0 && isBalanced (depth - 1) cs
    else isBalanced depth cs

/-- What stands between the angle brackets of generic arguments. -/
structure GenericArguments where
  chars : List Char
  isBalanced : isBalanced 0 chars = true

/-- A name, perhaps with generic arguments. -/
structure TypeSegment where
  name : TypeIdent
  arguments : Option GenericArguments

/-- A type reference: segments with dots between them, then pairs of brackets, each after some white space. -/
structure TypeRef where
  qualifiers : List TypeSegment
  last : TypeSegment
  pairs : List Spaces

def TypeIdent.text (n : TypeIdent) : String := String.ofList n.chars

namespace TypeSegment

def isGeneric (s : TypeSegment) : Bool := s.arguments.isSome

def chars (s : TypeSegment) : List Char :=
  s.name.chars ++ s.arguments.elim [] fun arguments => '<' :: arguments.chars ++ ['>']

end TypeSegment

/-- Pairs of brackets with the white space before each. -/
def pairChars (pairs : List Spaces) : List Char := pairs.flatMap fun s => s.chars ++ ['[', ']']

namespace TypeRef

def segments (r : TypeRef) : List TypeSegment := r.qualifiers ++ [r.last]

def chars (r : TypeRef) : List Char :=
  r.qualifiers.flatMap (fun s => s.chars ++ ['.']) ++ (r.last.chars ++ pairChars r.pairs)

def text (r : TypeRef) : String := String.ofList r.chars

end TypeRef

/-! ## References in arguments -/

/-- A text that closes what was open before it leaves the depth around it as it is. -/
theorem isBalanced_append {cs : List Char} {opened : Nat} (h : isBalanced opened cs = true) (depth : Nat)
    (ds : List Char) : isBalanced (depth + opened) (cs ++ ds) = isBalanced depth ds := by
  induction cs generalizing opened with
  | nil =>
    obtain rfl : opened = 0 := by simpa [isBalanced] using h
    rfl
  | cons c cs ih =>
    rw [List.cons_append, isBalanced]
    rw [isBalanced] at h
    split
    · next hc =>
      rw [if_pos hc] at h
      exact ih h
    · next hopen =>
      rw [if_neg hopen] at h
      split
      · next hc =>
        rw [if_pos hc, Bool.and_eq_true, bne_iff_ne] at h
        have hdepth : depth + opened - 1 = depth + (opened - 1) := by omega
        rw [hdepth, ih h.2, bne_iff_ne.2 (by omega), Bool.true_and]
      · next hc =>
        rw [if_neg hc] at h
        exact ih h

theorem isBalanced_append_zero {cs ds : List Char} (hcs : isBalanced 0 cs = true) (hds : isBalanced 0 ds = true) :
    isBalanced 0 (cs ++ ds) = true := by
  rw [← hds, ← isBalanced_append hcs 0 ds]

theorem isBalanced_flatMap {α : Type} {f : α → List Char} {xs : List α} (h : ∀ x ∈ xs, isBalanced 0 (f x) = true) :
    isBalanced 0 (xs.flatMap f) = true := by
  induction xs with
  | nil => rfl
  | cons x xs ih =>
    obtain ⟨hx, hxs⟩ := List.forall_mem_cons.1 h
    exact isBalanced_append_zero hx (ih hxs)

theorem isBalanced_of_not_mem {cs : List Char} (hopen : '<' ∉ cs) (hclose : '>' ∉ cs) : isBalanced 0 cs = true := by
  induction cs with
  | nil => rfl
  | cons c cs ih =>
    rw [List.mem_cons, not_or] at hopen hclose
    rw [isBalanced, if_neg (Ne.symm hopen.1), if_neg (Ne.symm hclose.1)]
    exact ih hopen.2 hclose.2

theorem TypeIdent.not_mem (n : TypeIdent) {c : Char} (h : isNameChar c = false) : c ∉ n.chars := fun hc => by
  rw [n.isName c hc] at h
  cases h

theorem not_mem_pairChars {c : Char} (hblank : isBlank c = false) (hopen : c ≠ '[') (hclose : c ≠ ']')
    (pairs : List Spaces) : c ∉ pairChars pairs := by
  intro hc
  obtain ⟨s, -, hc⟩ := List.mem_flatMap.1 hc
  rcases List.mem_append.1 hc with hc | hc
  · exact not_mem_of_blank s.isBlank hblank hc
  · simp [hopen, hclose] at hc

theorem TypeSegment.isBalanced_chars (s : TypeSegment) : isBalanced 0 s.chars = true := by
  refine isBalanced_append_zero (isBalanced_of_not_mem (s.name.not_mem (by decide)) (s.name.not_mem (by decide))) ?_
  cases s.arguments with
  | none => rfl
  | some arguments =>
    rw [Option.elim_some, List.cons_append, isBalanced, if_pos rfl]
    exact isBalanced_append arguments.isBalanced 1 ['>']

/-- The angle brackets of a reference pair up. -/
theorem TypeRef.isBalanced_chars (r : TypeRef) : isBalanced 0 r.chars = true := by
  refine isBalanced_append_zero (isBalanced_flatMap fun s _ => ?_) (isBalanced_append_zero r.last.isBalanced_chars ?_)
  · exact isBalanced_append_zero s.isBalanced_chars rfl
  · exact isBalanced_of_not_mem (not_mem_pairChars (by decide) (by decide) (by decide) _)
      (not_mem_pairChars (by decide) (by decide) (by decide) _)

/-- References may stand in arguments, at any depth. -/
def GenericArguments.ofRefs (first : TypeRef) (others : List TypeRef) : GenericArguments where
  chars := first.chars ++ others.flatMap fun r => [',', ' '] ++ r.chars
  isBalanced := isBalanced_append_zero first.isBalanced_chars
    (isBalanced_flatMap fun r _ => isBalanced_append_zero rfl r.isBalanced_chars)

/-! ## Names -/

theorem pairChars_concat (pairs : List Spaces) (s : Spaces) :
    pairChars (pairs ++ [s]) = pairChars pairs ++ s.chars ++ ['[', ']'] := by
  simp [pairChars]

namespace TypeIdent

variable (n : TypeIdent)

theorem not_isBlank {c : Char} (hc : c ∈ n.chars) : isBlank c = false := by
  have hname := n.isName c hc
  rw [isNameChar, Bool.and_eq_true, Bool.not_eq_true'] at hname
  exact hname.1

/-- A name with pairs of brackets neither begins nor ends with a blank. -/
theorem trimBlank_pairs (pairs : List Spaces) :
    trimBlank (n.chars ++ pairChars pairs) = n.chars ++ pairChars pairs := by
  refine trimBlank_of_ends (fun c hc => ?_) fun c hc => ?_
  · cases hn : n.chars with
    | nil => exact absurd hn n.ne_nil
    | cons d rest =>
      rw [hn] at hc
      cases hc
      exact n.not_isBlank (hn ▸ List.mem_cons_self)
  · rcases List.eq_nil_or_concat pairs with rfl | ⟨front, s, rfl⟩
    · exact n.not_isBlank (List.mem_of_getLast? (by simpa [pairChars] using hc))
    · have hclose : c = ']' := by simpa [pairChars_concat, eq_comm] using hc
      rw [hclose]
      decide

/-- A name is read as it is. -/
theorem simpleTypeChars_chars : simpleTypeChars n.chars = n.chars := by
  have hend : n.chars.getLast? ≠ some ']' := fun h => n.not_mem (by decide) (List.mem_of_getLast? h)
  rw [simpleTypeChars_of_uncut (n.not_mem (by decide)) (n.not_mem (by decide)) hend]
  simpa [pairChars] using n.trimBlank_pairs []

end TypeIdent

/-! ## Which brackets are left -/

/-- The pairs that are left of `pairs`, both from the last to the first. White space before a pair is where the cut
ends. -/
def leftPairs : List Spaces → List Spaces
  | [] => []
  | s :: pairs => if s.chars = [] then leftPairs pairs else pairs

theorem simpleTypeChars_pairs (n : TypeIdent) (pairs : List Spaces) :
    simpleTypeChars (n.chars ++ pairChars pairs.reverse) = n.chars ++ pairChars (leftPairs pairs).reverse := by
  induction pairs with
  | nil => simpa [pairChars, leftPairs] using n.simpleTypeChars_chars
  | cons s pairs ih =>
    rw [List.reverse_cons, pairChars_concat, ← List.append_assoc, simpleTypeChars_append_pair, leftPairs]
    split
    · next hs => rw [hs, List.append_nil, ih]
    · next hs =>
      -- the cut ends at the white space, and before it neither a `<` nor a dot is left to cut at
      have hnot : ∀ c, isBlank c = false → isNameChar c = false → c ≠ '[' → c ≠ ']' →
          c ∉ n.chars ++ (pairChars pairs.reverse ++ s.chars) := by
        intro c hblank hname hopen hclose hc
        rcases List.mem_append.1 hc with hc | hc
        · exact n.not_mem hname hc
        · rcases List.mem_append.1 hc with hc | hc
          · exact not_mem_pairChars hblank hopen hclose _ hc
          · exact not_mem_of_blank s.isBlank hblank hc
      have hend : (n.chars ++ (pairChars pairs.reverse ++ s.chars)).getLast? ≠ some ']' := by
        have hlast := List.getLast?_eq_some_getLast hs
        rw [← List.append_assoc, List.getLast?_append, hlast, Option.some_or, ← hlast]
        exact fun h => not_mem_of_blank s.isBlank (by decide) (List.mem_of_getLast? h)
      rw [simpleTypeChars_of_uncut (hnot '<' (by decide) (by decide) (by decide) (by decide))
        (hnot '.' (by decide) (by decide) (by decide) (by decide)) hend, ← List.append_assoc,
        trimBlank_append_right s.isBlank, n.trimBlank_pairs]

/-- Nothing is left iff white space stands before the first pair alone. -/
theorem leftPairs_eq_nil_iff {pairs : List Spaces} :
    leftPairs pairs.reverse = [] ↔ ∀ s ∈ pairs.tail, s.chars = [] := by
  have hback : ∀ ps : List Spaces, leftPairs ps = [] ↔ ∀ s ∈ ps.dropLast, s.chars = [] := by
    intro ps
    induction ps with
    | nil => simp [leftPairs]
    | cons s ps ih =>
      cases ps with
      | nil => simp [leftPairs]
      | cons t ps =>
        rw [leftPairs, List.dropLast_cons_cons, List.forall_mem_cons]
        split
        · next hs => rw [ih, and_iff_right hs]
        · next hs => simp [hs]
  rw [hback, List.dropLast_reverse]
  simp only [List.mem_reverse]

theorem length_pairChars_leftPairs_lt (s : Spaces) (pairs : List Spaces) :
    (pairChars (leftPairs (s :: pairs)).reverse).length < (pairChars (s :: pairs).reverse).length := by
  induction pairs generalizing s with
  | nil =>
    rw [leftPairs, leftPairs, ite_self]
    simp [pairChars]
  | cons t pairs ih =>
    rw [leftPairs, List.reverse_cons, pairChars_concat]
    split
    · have ht := ih t
      simp only [List.length_append, List.length_cons, List.length_nil]
      omega
    · simp only [List.length_append, List.length_cons, List.length_nil]
      omega

/-! ## Which name is left -/

namespace TypeRef

/-- The first segment with arguments. -/
def firstGeneric? (r : TypeRef) : Option TypeSegment := r.segments.find? TypeSegment.isGeneric

theorem chars_cons (q : TypeSegment) (qs : List TypeSegment) (last : TypeSegment) (pairs : List Spaces) :
    chars ⟨q :: qs, last, pairs⟩ = q.chars ++ '.' :: chars ⟨qs, last, pairs⟩ := by
  simp [chars]

/-- The name is that of the first segment with arguments. Where none has any, it is that of the last segment, with the
brackets that are left. -/
theorem simpleTypeChars_chars (r : TypeRef) :
    simpleTypeChars r.chars =
      (r.firstGeneric?.map fun s => s.name.chars).getD (simpleTypeChars (r.last.name.chars ++ pairChars r.pairs)) := by
  obtain ⟨qualifiers, last, pairs⟩ := r
  have hgeneric : ∀ (s : TypeSegment) (tail : List Char), s.isGeneric = true →
      simpleTypeChars (s.chars ++ tail) = s.name.chars := by
    intro s tail hs
    obtain ⟨arguments, harguments⟩ := Option.isSome_iff_exists.1 hs
    rw [TypeSegment.chars, harguments, Option.elim_some, List.cons_append, List.append_assoc, List.cons_append,
      simpleTypeChars_append_angle, s.name.simpleTypeChars_chars]
  have hplain : ∀ s : TypeSegment, s.isGeneric = false → s.chars = s.name.chars := by
    intro s hs
    have hnone : s.arguments = none := Option.isNone_iff_eq_none.1 (Option.isSome_eq_false_iff.1 hs)
    rw [TypeSegment.chars, hnone, Option.elim_none, List.append_nil]
  induction qualifiers with
  | nil =>
    cases hlast : last.isGeneric with
    | true => simp [chars, firstGeneric?, segments, hlast, hgeneric last _ hlast]
    | false => simp [chars, firstGeneric?, segments, hlast, hplain last hlast]
  | cons q qs ih =>
    rw [chars_cons]
    cases hq : q.isGeneric with
    | true => simp [firstGeneric?, segments, hq, hgeneric q _ hq]
    | false =>
      rw [hplain q hq, simpleTypeChars_qualified (q.name.not_mem (by decide)), ih]
      simp [firstGeneric?, segments, hq]

theorem simpleTypeChars_of_generic {r : TypeRef} {s : TypeSegment} (h : r.firstGeneric? = some s) :
    simpleTypeChars r.chars = s.name.chars := by
  rw [simpleTypeChars_chars, h, Option.map_some, Option.getD_some]

theorem simpleTypeChars_of_plain {r : TypeRef} (h : r.firstGeneric? = none) :
    simpleTypeChars r.chars = r.last.name.chars ++ pairChars (leftPairs r.pairs.reverse).reverse := by
  rw [simpleTypeChars_chars, h, Option.map_none, Option.getD_none, ← simpleTypeChars_pairs, List.reverse_reverse]

/-- White space stands between brackets only behind arguments. -/
def Compact (r : TypeRef) : Prop := r.firstGeneric? = none → ∀ s ∈ r.pairs.tail, s.chars = []

/-- The cuts leave the last name and nothing else: the first name with arguments, if there is one, is the last, and white
space stands between brackets only behind arguments. -/
def Clear (r : TypeRef) : Prop := (∀ s, r.firstGeneric? = some s → s.name = r.last.name) ∧ r.Compact

theorem compact_iff_of_plain {r : TypeRef} (h : r.firstGeneric? = none) :
    r.Compact ↔ leftPairs r.pairs.reverse = [] := by
  rw [Compact, leftPairs_eq_nil_iff]
  exact ⟨fun hcompact => hcompact h, fun hpairs _ => hpairs⟩

theorem compact_of_generic {r : TypeRef} {s : TypeSegment} (h : r.firstGeneric? = some s) : r.Compact := fun hnone => by
  rw [h] at hnone
  cases hnone

theorem simpleTypeChars_eq_last_iff (r : TypeRef) : simpleTypeChars r.chars = r.last.name.chars ↔ r.Clear := by
  cases hg : r.firstGeneric? with
  | some s =>
    rw [simpleTypeChars_of_generic hg, Clear, and_iff_left (compact_of_generic hg), hg]
    simp only [Option.some.injEq, forall_eq', TypeIdent.ext_iff]
  | none =>
    rw [simpleTypeChars_of_plain hg, Clear, hg, compact_iff_of_plain hg, List.append_right_eq_self]
    cases leftPairs r.pairs.reverse with
    | nil => simp [pairChars]
    | cons s pairs => simp [pairChars_concat]

/-- Brackets that are left are cut when the name is read again. -/
theorem simpleTypeChars_idem_iff (r : TypeRef) :
    simpleTypeChars (simpleTypeChars r.chars) = simpleTypeChars r.chars ↔ r.Compact := by
  cases hg : r.firstGeneric? with
  | some s =>
    rw [simpleTypeChars_of_generic hg, s.name.simpleTypeChars_chars]
    exact iff_of_true rfl (compact_of_generic hg)
  | none =>
    rw [simpleTypeChars_of_plain hg, simpleTypeChars_pairs, compact_iff_of_plain hg, List.append_cancel_left_eq]
    cases leftPairs r.pairs.reverse with
    | nil => exact iff_of_true rfl rfl
    | cons s pairs =>
      refine iff_of_false (fun heq => ?_) (List.cons_ne_nil s pairs)
      exact absurd (congrArg List.length heq) (Nat.ne_of_lt (length_pairChars_leftPairs_lt s pairs))

end TypeRef

theorem TypeIdent.text_ne_empty (n : TypeIdent) : n.text ≠ "" := fun h =>
  n.ne_nil (by simpa [TypeIdent.text] using congrArg String.toList h)

theorem ModuleId.simpleName_ident (n : TypeIdent) : ModuleId.simpleName ⟨n.text⟩ = n.text := by
  rw [ModuleId.simpleName, simpleTypeName, TypeIdent.text, String.toList_ofList, n.simpleTypeChars_chars]

theorem ModuleId.matchesType_eq_true_iff {m : ModuleId} {typeRef : String} :
    m.matchesType typeRef = true ↔ m.simpleName ≠ "" ∧ simpleTypeName typeRef = m.simpleName := by
  simp [ModuleId.matchesType]

/-- **The name of a type reference.** It is the name of the last segment iff the reference is clear, and then the
module that a reference denotes is the one of that name. Reading a name again changes nothing iff the reference is
compact. -/
theorem simpleTypeName_typeRef (r : TypeRef) :
    (simpleTypeName r.text = r.last.name.text ↔ r.Clear) ∧
      ((∀ m : ModuleId, m.matchesType r.text = true ↔ m.simpleName = r.last.name.text) ↔ r.Clear) ∧
      (simpleTypeName (simpleTypeName r.text) = simpleTypeName r.text ↔ r.Compact) := by
  have hname : simpleTypeName r.text = String.ofList (simpleTypeChars r.chars) := by
    rw [simpleTypeName, TypeRef.text, String.toList_ofList]
  have hlast : simpleTypeName r.text = r.last.name.text ↔ r.Clear := by
    rw [hname, TypeIdent.text, String.ofList_inj, r.simpleTypeChars_eq_last_iff]
  refine ⟨hlast, ⟨fun hmatches => ?_, fun hclear m => ?_⟩, ?_⟩
  · -- the module of the last name tells whether the reference is clear
    have hmodule := (hmatches ⟨r.last.name.text⟩).2 (ModuleId.simpleName_ident _)
    rw [ModuleId.matchesType_eq_true_iff, ModuleId.simpleName_ident] at hmodule
    exact hlast.1 hmodule.2
  · rw [ModuleId.matchesType_eq_true_iff, hlast.2 hclear]
    exact ⟨fun h => h.2.symm, fun h => ⟨h ▸ r.last.name.text_ne_empty, h.symm⟩⟩
  · rw [hname, simpleTypeName, String.toList_ofList, String.ofList_inj, r.simpleTypeChars_idem_iff]

/-! ## References that are not clear -/

def outerName : TypeIdent := ⟨"Outer".toList, by decide, List.all_eq_true.1 rfl⟩

def innerName : TypeIdent := ⟨"Inner".toList, by decide, List.all_eq_true.1 rfl⟩

/-- `String` -/
def stringRef : TypeRef := ⟨[], ⟨⟨"String".toList, by decide, List.all_eq_true.1 rfl⟩, none⟩, []⟩

/-- `Outer<String>.Inner` -/
def memberRef : TypeRef := ⟨[⟨outerName, some (.ofRefs stringRef [])⟩], ⟨innerName, none⟩, []⟩

def oneSpace : Spaces := ⟨[' '], List.all_eq_true.1 rfl⟩

/-- `Inner [] []` -/
def spacedRef : TypeRef := ⟨[], ⟨innerName, none⟩, [oneSpace, oneSpace]⟩

/-- The name of a member of a generic type is not found, nor that of an array with white space between its brackets:
neither reference denotes the module of its last name, and the brackets go only when the name is read again. -/
theorem simpleTypeName_memberRef :
    memberRef.text = "Outer<String>.Inner" ∧ memberRef.last.name.text = "Inner" ∧
      simpleTypeName memberRef.text = "Outer" ∧ ModuleId.matchesType ⟨"Inner"⟩ memberRef.text = false ∧
      spacedRef.text = "Inner [] []" ∧ spacedRef.last.name.text = "Inner" ∧
      simpleTypeName spacedRef.text = "Inner []" ∧ ModuleId.matchesType ⟨"Inner"⟩ spacedRef.text = false ∧
      simpleTypeName (simpleTypeName spacedRef.text) = "Inner" := by
  decide

end ConfigCoverage
