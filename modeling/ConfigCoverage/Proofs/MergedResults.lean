import ConfigCoverage.Proofs.Contents
import ConfigCoverage.Proofs.ResultText

/-!
# Recording test cases in any order

Results are built by recording test cases one after another. What they hold does not show in which order that was, nor
whether the properties of a test case came at once or in parts: under each name stand all properties that were recorded
under it, by ascending name and value, and the names ascend too.

* `compare_eq_lt_iff`: texts are ordered by their code points.
* `ResultMap.holds_ofRecordings`: what results hold after any recordings.
* `ResultMap.ofRecordings_eq_iff`: which recordings lead to the same results.
* `ResultMap.recording_canonical`: all of it.
-/

namespace ConfigCoverage

/-! ## The order of texts and properties -/

/-- The numbers of the characters of a text. -/
def codePoints (s : String) : List Nat := s.toList.map Char.toNat

/-- A text comes before another by the first code point in which they differ, or as a beginning of it. -/
def CodePointsBefore (s t : String) : Prop := List.Lex (fun a b : Nat => a < b) (codePoints s) (codePoints t)

theorem lex_map_toNat_iff {cs ds : List Char} :
    List.Lex (fun a b : Nat => a < b) (cs.map Char.toNat) (ds.map Char.toNat) ↔
      List.Lex (fun c d : Char => c < d) cs ds := by
  induction cs generalizing ds with
  | nil =>
    cases ds with
    | nil => exact iff_of_false List.not_lex_nil List.not_lex_nil
    | cons d ds => exact iff_of_true .nil .nil
  | cons c cs ih =>
    cases ds with
    | nil => exact iff_of_false List.not_lex_nil List.not_lex_nil
    | cons d ds =>
      rw [List.map_cons, List.map_cons, List.cons_lex_cons_iff, List.cons_lex_cons_iff, ih, Char.toNat_inj]
      rfl

/-- Texts are ordered by their code points. -/
theorem compare_eq_lt_iff {s t : String} : compare s t = .lt ↔ CodePointsBefore s t := by
  have hlt : compare s t = .lt ↔ s < t := compareOfLessAndEq_eq_lt
  rw [hlt, String.lt_iff, CodePointsBefore, codePoints, codePoints, lex_map_toNat_iff]
  rfl

theorem ne_of_compare_eq_lt {α : Type} [Ord α] [Std.LawfulEqOrd α] {a b : α} (h : compare a b = .lt) : a ≠ b := by
  rintro rfl
  simp at h

/-- A property comes before another by its name, or by its value if the names are the same. -/
def Property.Before (p q : Property) : Prop :=
  CodePointsBefore p.name q.name ∨ p.name = q.name ∧ CodePointsBefore p.value q.value

theorem Property.compare_eq_lt_iff {p q : Property} : compare p q = .lt ↔ p.Before q := by
  rw [Property.compare_def, Ordering.then_eq_lt, ConfigCoverage.compare_eq_lt_iff, ConfigCoverage.compare_eq_lt_iff,
    Std.LawfulEqOrd.compare_eq_iff_eq]
  rfl

/-! ## Recordings -/

/-- A test case as it is recorded: its name and some properties. -/
abbrev Recording := String × PropertySet

/-- Each recording is made in one or more parts, which have its name and together its properties. -/
inductive InParts : List Recording → List Recording → Prop
  | nil : InParts [] []
  | cons {c : Recording} {parts cs rest : List Recording} : parts ≠ [] → (∀ part ∈ parts, part.1 = c.1) →
    (∀ p, p ∈ c.2 ↔ ∃ part ∈ parts, p ∈ part.2) → InParts cs rest → InParts (c :: cs) (parts ++ rest)

/-- The recordings, each in one or more parts, and all parts in any order. -/
def Rearranged (calls others : List Recording) : Prop := ∃ parts, InParts calls parts ∧ others.Perm parts

theorem InParts.exists_name_iff {calls parts : List Recording} (h : InParts calls parts) {test : String} :
    (∃ c ∈ calls, c.1 = test) ↔ ∃ part ∈ parts, part.1 = test := by
  induction h with
  | nil => exact Iff.rfl
  | @cons c parts cs rest hne hnames _ _ ih =>
    simp only [List.mem_append, List.mem_cons, or_and_right, exists_or, exists_eq_left, ih]
    refine or_congr_left ?_
    obtain ⟨part, hpart⟩ := List.exists_mem_of_ne_nil parts hne
    constructor
    · intro hc
      exact ⟨part, hpart, (hnames part hpart).trans hc⟩
    · rintro ⟨other, ho, htest⟩
      exact (hnames other ho).symm.trans htest

theorem InParts.exists_property_iff {calls parts : List Recording} (h : InParts calls parts) {test : String}
    {p : Property} :
    (∃ c ∈ calls, c.1 = test ∧ p ∈ c.2) ↔ ∃ part ∈ parts, part.1 = test ∧ p ∈ part.2 := by
  induction h with
  | nil => exact Iff.rfl
  | @cons c parts cs rest _ hnames hunion _ ih =>
    simp only [List.mem_append, List.mem_cons, or_and_right, exists_or, exists_eq_left, ih, hunion]
    refine or_congr_left ?_
    constructor
    · rintro ⟨hc, part, hpart, hp⟩
      exact ⟨part, hpart, (hnames part hpart).trans hc, hp⟩
    · rintro ⟨part, hpart, htest, hp⟩
      exact ⟨(hnames part hpart).symm.trans htest, part, hpart, hp⟩

namespace ResultMap

/-- The results after some recordings. -/
def ofRecordings (calls : List Recording) : ResultMap := calls.foldl (fun r c => r.insert c.1 c.2) empty

variable {calls others : List Recording} {test : String} {p : Property}

theorem contains_ofRecordings : (ofRecordings calls).contains test = true ↔ ∃ c ∈ calls, c.1 = test := by
  have hempty : ¬ empty.contains test = true := by rintro ⟨⟩
  rw [ofRecordings, contains_foldl_insert, or_iff_right hempty]

theorem sets_ofRecordings : (ofRecordings calls).Sets test p ↔ ∃ c ∈ calls, c.1 = test ∧ p ∈ c.2 := by
  rw [ofRecordings, sets_foldl_insert, or_iff_right (not_sets_empty test p)]

/-- Recordings lead to the same results iff they have the same names, and the same properties under each name. -/
theorem ofRecordings_eq_iff :
    ofRecordings calls = ofRecordings others ↔
      (∀ test, (∃ c ∈ calls, c.1 = test) ↔ ∃ c ∈ others, c.1 = test) ∧
      ∀ test p, (∃ c ∈ calls, c.1 = test ∧ p ∈ c.2) ↔ ∃ c ∈ others, c.1 = test ∧ p ∈ c.2 := by
  simp only [← contains_ofRecordings, ← sets_ofRecordings]
  constructor
  · intro h
    rw [h]
    exact ⟨fun _ => Iff.rfl, fun _ _ => Iff.rfl⟩
  · rintro ⟨hnames, hsets⟩
    exact ext_get? fun test => get?_eq_of_sets (hnames test) (hsets test)

theorem ofRecordings_eq_of_rearranged (h : Rearranged calls others) : ofRecordings others = ofRecordings calls := by
  obtain ⟨parts, hparts, hperm⟩ := h
  refine ofRecordings_eq_iff.2 ⟨fun test => ?_, fun test p => ?_⟩
  · rw [hparts.exists_name_iff]
    simp only [hperm.mem_iff]
  · rw [hparts.exists_property_iff]
    simp only [hperm.mem_iff]

/-- The names of the results ascend, and so do the properties under each of them; none of either stands twice. -/
structure Ordered (r : ResultMap) : Prop where
  names : (r.toList.map Prod.fst).Pairwise CodePointsBefore
  properties : ∀ entry ∈ r.toList, entry.2.toList.Pairwise Property.Before
  distinctNames : (r.toList.map Prod.fst).Nodup
  distinctProperties : ∀ entry ∈ r.toList, entry.2.toList.Nodup

theorem ordered (r : ResultMap) : r.Ordered where
  names := r.tests.ascending.imp compare_eq_lt_iff.1
  properties entry _ := entry.2.ascending.imp Property.compare_eq_lt_iff.1
  distinctNames := r.tests.ascending.imp ne_of_compare_eq_lt
  distinctProperties entry _ := entry.2.ascending.imp ne_of_compare_eq_lt

/-- What the results hold after some recordings. -/
structure Holds (calls : List Recording) (r : ResultMap) : Prop where
  /-- There is an entry for each name that was recorded, and no other. -/
  absent : ∀ test, r.get? test = none ↔ ∀ c ∈ calls, c.1 ≠ test
  /-- The entry of a name has all that was recorded under it, and nothing else. -/
  union : ∀ test ps, r.get? test = some ps → ∀ p, p ∈ ps ↔ ∃ c ∈ calls, c.1 = test ∧ p ∈ c.2
  /-- A name under which only empty sets were recorded has an entry. -/
  defaults : ∀ test, (∃ c ∈ calls, c.1 = test) → (∀ c ∈ calls, c.1 = test → c.2 = .empty) → r.get? test = some .empty

theorem holds_ofRecordings (calls : List Recording) : Holds calls (ofRecordings calls) := by
  have hunion : ∀ test ps, (ofRecordings calls).get? test = some ps →
      ∀ p, p ∈ ps ↔ ∃ c ∈ calls, c.1 = test ∧ p ∈ c.2 := by
    intro test ps hps p
    rw [← sets_ofRecordings, Sets, hps]
    simp
  refine ⟨fun test => ?_, hunion, fun test hnamed hempty => ?_⟩
  · have hnone : (ofRecordings calls).get? test = none ↔ ¬ (ofRecordings calls).contains test = true := by
      rw [contains_iff_get?, ← Option.ne_none_iff_exists', Decidable.not_not]
    rw [hnone, contains_ofRecordings]
    simp only [not_exists, not_and]
  · obtain ⟨ps, hps⟩ := contains_iff_get?.1 (contains_ofRecordings.2 hnamed)
    have hnothing : ps = .empty := SortedSet.ext_mem fun p => by
      refine iff_of_false (fun hp => ?_) (SortedSet.not_mem_empty p)
      obtain ⟨c, hc, htest, hmem⟩ := (hunion test ps hps p).1 hp
      rw [hempty c hc htest] at hmem
      exact SortedSet.not_mem_empty p hmem
    rw [hps, hnothing]

/-- **Results are the same however the test cases were recorded.** After any recordings the names ascend by code points,
and so do the properties of each by name and value, without repetition; under a name stands the union of what was
recorded under it. A further recording changes nothing under other names. The recordings in any order, each at once or
in parts, lead to the same results and to the same text. -/
theorem recording_canonical (calls : List Recording) :
    (ofRecordings calls).Ordered ∧ Holds calls (ofRecordings calls) ∧
    (∀ test ps other, other ≠ test →
      (ofRecordings (calls ++ [(test, ps)])).get? other = (ofRecordings calls).get? other) ∧
    ∀ others, Rearranged calls others →
      ofRecordings others = ofRecordings calls ∧ (ofRecordings others).render = (ofRecordings calls).render := by
  refine ⟨ordered _, holds_ofRecordings calls, fun test ps other hne => ?_, fun others h => ?_⟩
  · rw [ofRecordings, List.foldl_append, List.foldl_cons, List.foldl_nil, get?_insert, if_neg hne]
    rfl
  · rw [ofRecordings_eq_of_rearranged h]
    exact ⟨rfl, rfl⟩

/-- Two properties of one test case are recorded at once, or apart and around another test case without properties. -/
theorem recording_canonical_apart :
    Rearranged [("testDefault", .empty), ("testMax", .ofList [⟨"max", "1"⟩, ⟨"format", "x"⟩])]
        [("testMax", .ofList [⟨"max", "1"⟩]), ("testDefault", .empty), ("testMax", .ofList [⟨"format", "x"⟩])] ∧
      (ofRecordings
          [("testMax", .ofList [⟨"max", "1"⟩]), ("testDefault", .empty), ("testMax", .ofList [⟨"format", "x"⟩])]).render =
        (ofRecordings [("testDefault", .empty), ("testMax", .ofList [⟨"max", "1"⟩, ⟨"format", "x"⟩])]).render := by
  have hparts : Rearranged [("testDefault", .empty), ("testMax", .ofList [⟨"max", "1"⟩, ⟨"format", "x"⟩])]
      [("testMax", .ofList [⟨"max", "1"⟩]), ("testDefault", .empty), ("testMax", .ofList [⟨"format", "x"⟩])] := by
    refine ⟨[("testDefault", .empty)] ++
      ([("testMax", .ofList [⟨"max", "1"⟩]), ("testMax", .ofList [⟨"format", "x"⟩])] ++ []), ?_, .swap _ _ _⟩
    exact .cons (by simp) (by simp) (by simp) (.cons (by simp) (by simp) (by simp [SortedSet.mem_ofList]) .nil)
  exact ⟨hparts, ((recording_canonical _).2.2.2 _ hparts).2⟩

end ResultMap

end ConfigCoverage
