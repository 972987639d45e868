import Mathlib.Data.Finset.Card
import ConfigCoverage.Proofs.Verdict

/-!
# The parts of a report

A report lists what a module declares, in the order of the declarations, and what its tests exercise, in ascending
order. Neither list has a name twice, so that the names they share can be counted from either side: the number that a
report shows as exercised is that of the names in both.

* `firstOccurrences_kept`: dropping repetitions keeps each text where it stands first.
* `length_eq_inter_add`: a list without repetitions is what it shares with another list and what it does not.
* `Report.compute_fits`: how the lists of a report, the numbers in its text and its status fit together.
-/

namespace ConfigCoverage

/-! ## First occurrences -/

/-- What is kept of the texts `before`, the first of `texts`: all of them, by the places where they stand first. -/
structure Kept (texts before kept : List String) : Prop where
  mem_iff : ∀ t, t ∈ kept ↔ t ∈ before
  ordered : kept.Pairwise fun t u => texts.idxOf t < texts.idxOf u

/-- **One text more.** It is kept iff it was not kept before. -/
theorem Kept.step {texts before after kept : List String} {t : String} (htexts : texts = before ++ t :: after)
    (h : Kept texts before kept) : Kept texts (before ++ [t]) (if kept.contains t then kept else kept ++ [t]) := by
  by_cases ht : t ∈ kept
  · rw [if_pos (List.contains_iff_mem.2 ht)]
    refine ⟨fun u => ?_, h.ordered⟩
    rw [List.mem_append, List.mem_singleton, ← h.mem_iff]
    exact ⟨.inl, fun hu => hu.elim id fun heq => heq ▸ ht⟩
  · rw [if_neg (mt List.contains_iff_mem.1 ht)]
    have hplace : texts.idxOf t = before.length := by
      rw [htexts, List.idxOf_append, if_neg (mt (h.mem_iff t).2 ht), List.idxOf_cons_self, Nat.zero_add]
    refine ⟨fun u => by simp only [List.mem_append, h.mem_iff], ?_⟩
    refine List.pairwise_append.2 ⟨h.ordered, List.pairwise_singleton _ _, fun u hu v hv => ?_⟩
    rw [List.mem_singleton.1 hv, hplace, htexts, List.idxOf_append, if_pos ((h.mem_iff u).1 hu)]
    exact List.idxOf_lt_length_of_mem ((h.mem_iff u).1 hu)

theorem Kept.foldl {texts before after kept : List String} (htexts : texts = before ++ after)
    (h : Kept texts before kept) :
    Kept texts texts (after.foldl (fun seen t => if seen.contains t then seen else seen ++ [t]) kept) := by
  induction after generalizing before kept with
  | nil =>
    rw [List.append_nil] at htexts
    rw [← htexts] at h
    exact h
  | cons t after ih =>
    rw [List.foldl_cons]
    exact ih (by rw [htexts, List.append_assoc, List.singleton_append]) (h.step htexts)

/-- Dropping repetitions keeps each text where it stands first. -/
theorem firstOccurrences_kept (texts : List String) : Kept texts texts (firstOccurrences texts) :=
  Kept.foldl rfl (⟨fun _ => Iff.rfl, List.Pairwise.nil⟩ : Kept texts [] [])

/-! ## Names in two lists -/

/-- A list without repetitions is what it shares with another list and what it does not. -/
theorem length_eq_inter_add {xs : List String} (hxs : xs.Nodup) (ys : List String) :
    xs.length = (xs.toFinset ∩ ys.toFinset).card + (xs.filter (· ∉ ys)).length := by
  have hshared : (xs.filter (· ∈ ys)).length = (xs.toFinset ∩ ys.toFinset).card := by
    rw [← List.toFinset_card_of_nodup (hxs.filter _)]
    congr 1
    ext x
    simp
  rw [← hshared, List.length_eq_length_filter_add (· ∈ ys)]
  simp

theorem filter_not_contains_eq (xs ys : List String) : (xs.filter fun x => !ys.contains x) = xs.filter (· ∉ ys) :=
  List.filter_congr fun x _ => by rw [List.contains_eq_mem, decide_not]

theorem Ascending.nodup {xs : List String} (h : Ascending xs) : xs.Nodup := by
  refine List.Pairwise.imp (fun {a b} hab heq => ?_) h
  rw [heq] at hab
  simp at hab

/-! ## Reports -/

namespace Report

/-- The number of names that are declared and exercised. -/
def sharedCount (r : Report) : Nat := (r.declared.toFinset ∩ r.exercised.toFinset).card

/-- The first line of a report with a given status and a given number of exercised properties. -/
def headline (r : Report) (status : String) (tested : Nat) : String :=
  status ++ " " ++ r.module ++ ": " ++ toString tested ++ "/" ++ toString r.declared.length ++
    " properties exercised by " ++ toString r.testCases ++ " test cases\n"

/-- The two sides of a report are without repetitions, and what one side lacks stands in the order of the other. -/
structure Compared (r : Report) : Prop where
  declared_nodup : r.declared.Nodup
  exercised_nodup : r.exercised.Nodup
  untested_eq : r.untested = r.declared.filter (· ∉ r.exercised)
  undeclared_eq : r.undeclared = r.exercised.filter (· ∉ r.declared)

section Compared

variable {r : Report} (h : r.Compared)

include h

/-- The declared names are those that are exercised and those that are not. -/
theorem Compared.sharedCount_add_untested : r.sharedCount + r.untested.length = r.declared.length := by
  rw [h.untested_eq, sharedCount]
  exact (length_eq_inter_add h.declared_nodup r.exercised).symm

/-- The exercised names are those that are declared and those that are not. -/
theorem Compared.sharedCount_add_undeclared : r.sharedCount + r.undeclared.length = r.exercised.length := by
  rw [h.undeclared_eq, sharedCount, Finset.inter_comm]
  exact (length_eq_inter_add h.exercised_nodup r.declared).symm

theorem Compared.isComplete_iff : r.isComplete = true ↔ r.sharedCount = r.declared.length := by
  have hadd := h.sharedCount_add_untested
  rw [isComplete, List.isEmpty_iff_length_eq_zero]
  omega

/-- The text begins with the status and shows how many names are declared and exercised. -/
theorem Compared.text_eq : ∃ details, r.text =
    r.headline (if r.sharedCount = r.declared.length then "ok" else "MISSING") r.sharedCount ++ details := by
  have hadd := h.sharedCount_add_untested
  have hnumber : r.declared.length - r.untested.length = r.sharedCount := by omega
  simp only [text, headline, hnumber, h.isComplete_iff]
  exact ⟨_, String.append_assoc⟩

end Compared

/-- The lists of a report, the numbers that are read off them and its text fit the module, its results and the
exclusions, and one another. -/
structure Fits (r : Report) (info : ModuleInfo) (results : ResultMap) (excluded : Exclusions) : Prop
    extends r.Compared where
  /-- The declared names stand in the order of their first declarations. -/
  declared_ordered : r.declared.Pairwise fun p q => info.properties.idxOf p < info.properties.idxOf q
  mem_declared : ∀ p, p ∈ r.declared ↔ p ∈ info.properties ∧ p ∉ excluded
  exercised_ascending : Ascending r.exercised
  mem_exercised : ∀ p, p ∈ r.exercised ↔ (∃ test q, results.Sets test q ∧ q.name = p) ∧ p ∉ excluded
  not_excluded : ∀ p ∈ excluded, p ∉ r.declared ∧ p ∉ r.exercised ∧ p ∉ r.untested ∧ p ∉ r.undeclared
  untested_le : r.untested.length ≤ r.declared.length
  declared_sub_untested : r.declared.length - r.untested.length = r.sharedCount
  undeclared_le : r.undeclared.length ≤ r.exercised.length
  exercised_sub_undeclared : r.exercised.length - r.undeclared.length = r.sharedCount
  /-- The number that is shown is that of the names that are declared and exercised, and the status follows from it. -/
  text_eq : ∃ details, r.text =
    r.headline (if r.sharedCount = r.declared.length then "ok" else "MISSING") r.sharedCount ++ details

variable (info : ModuleInfo) (results : ResultMap) (excluded : Exclusions)

theorem declared_ordered :
    (compute info results excluded).declared.Pairwise fun p q => info.properties.idxOf p < info.properties.idxOf q :=
  (firstOccurrences_kept info.properties).ordered.filter _

theorem exercised_ascending : Ascending (compute info results excluded).exercised :=
  List.Pairwise.filter _ results.propertyNames.ascending

theorem compute_compared : (compute info results excluded).Compared where
  declared_nodup := (declared_ordered info results excluded).imp fun hlt heq => by simp [heq] at hlt
  exercised_nodup := (exercised_ascending info results excluded).nodup
  untested_eq := filter_not_contains_eq _ _
  undeclared_eq := filter_not_contains_eq _ _

theorem not_mem_of_excluded {p : String} (hp : p ∈ excluded) :
    p ∉ (compute info results excluded).declared ∧ p ∉ (compute info results excluded).exercised ∧
      p ∉ (compute info results excluded).untested ∧ p ∉ (compute info results excluded).undeclared := by
  have hdeclared : p ∉ (compute info results excluded).declared := fun h => (mem_declared.1 h).2 hp
  have hexercised : p ∉ (compute info results excluded).exercised := fun h => (mem_exercised.1 h).2 hp
  exact ⟨hdeclared, hexercised, fun h => hdeclared (List.mem_filter.1 h).1, fun h => hexercised (List.mem_filter.1 h).1⟩

/-- **The parts of a report fit together.** Its lists are without repetitions and in their orders, hold what the module
declares and what the tests exercise, and account for one another, so that the number in the text is that of the names
that are declared and exercised. -/
theorem compute_fits : (compute info results excluded).Fits info results excluded := by
  have h := compute_compared info results excluded
  have hdeclared := h.sharedCount_add_untested
  have hexercised := h.sharedCount_add_undeclared
  exact { h with
    declared_ordered := declared_ordered info results excluded
    mem_declared := fun _ => mem_declared
    exercised_ascending := exercised_ascending info results excluded
    mem_exercised := fun _ => by rw [mem_exercised, ResultMap.mem_propertyNames]
    not_excluded := fun _ hp => not_mem_of_excluded info results excluded hp
    untested_le := by omega
    declared_sub_untested := by omega
    undeclared_le := by omega
    exercised_sub_undeclared := by omega
    text_eq := h.text_eq }

end Report

end ConfigCoverage
