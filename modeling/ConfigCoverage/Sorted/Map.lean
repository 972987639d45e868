import ConfigCoverage.Sorted.Set

/-!
# Sorted maps

A finite map kept as the list of its entries in strictly ascending order of the keys.

* `get?_alter`: changing the value under one key leaves the others alone.
* `mem_entries`: the entries are what the look-ups find.
* `ext_get?`: a map is determined by its look-ups.
-/

namespace ConfigCoverage

section Lists

variable {κ β : Type} [Ord κ]

/-- The value under `k`. -/
def lookupAscending (k : κ) : List (κ × β) → Option β
  | [] => none
  | (k', v) :: es => if compare k k' = .eq then some v else lookupAscending k es

/-- Replace what stands under `k` by `f` of it. -/
def alterAscending (k : κ) (f : Option β → β) : List (κ × β) → List (κ × β)
  | [] => [(k, f none)]
  | (k', v) :: es =>
    match compare k k' with
    | .lt => (k, f none) :: (k', v) :: es
    | .eq => (k', f (some v)) :: es
    | .gt => (k', v) :: alterAscending k f es

/-- A key below all keys of the list is not found. -/
theorem lookupAscending_eq_none {k : κ} {es : List (κ × β)} (h : ∀ y ∈ es.map Prod.fst, compare k y = .lt) :
    lookupAscending k es = none := by
  induction es with
  | nil => rfl
  | cons e es ih =>
    simp only [lookupAscending, h e.1 (by simp)]
    exact ih fun y hy => h y (by simp [hy])

/-- A key that is not there yet adds one entry to the others. -/
theorem alterAscending_perm {k : κ} {f : Option β → β} {es : List (κ × β)} (h : lookupAscending k es = none) :
    (alterAscending k f es).Perm ((k, f none) :: es) := by
  induction es with
  | nil => exact .refl _
  | cons e es ih =>
    obtain ⟨k', v⟩ := e
    rw [lookupAscending] at h
    unfold alterAscending
    split
    · exact .refl _
    · next heq => simp [heq] at h
    · next hgt =>
      rw [if_neg (by simp [hgt])] at h
      exact ((ih h).cons _).trans (.swap _ _ _)

variable [Std.LawfulEqOrd κ]

theorem mem_keys_alterAscending {x k : κ} {f : Option β → β} {es : List (κ × β)} :
    x ∈ (alterAscending k f es).map Prod.fst ↔ x = k ∨ x ∈ es.map Prod.fst := by
  induction es with
  | nil => simp [alterAscending]
  | cons e es ih =>
    unfold alterAscending
    split
    · simp
    · next h => simp [Std.LawfulEqOrd.eq_of_compare h]
    · simp only [List.map_cons, List.mem_cons, ih]; exact or_left_comm

/-- With ascending keys, a look-up finds exactly the entries of the list. -/
theorem lookupAscending_eq_some_iff {k : κ} {v : β} {es : List (κ × β)} (h : Ascending (es.map Prod.fst)) :
    lookupAscending k es = some v ↔ (k, v) ∈ es := by
  induction es with
  | nil => simp [lookupAscending]
  | cons e es ih =>
    obtain ⟨k', v'⟩ := e
    have he := List.pairwise_cons.1 h
    rw [lookupAscending, List.mem_cons]
    by_cases hk : k = k'
    · subst hk
      have absent : (k, v) ∉ es := by
        intro hv
        have := he.1 k (List.mem_map_of_mem hv)
        simp at this
      simp [absent, eq_comm]
    · rw [if_neg (by simpa using hk), ih he.2]
      simp [hk]

variable [Std.TransOrd κ]

theorem ascending_keys_alterAscending {k : κ} {f : Option β → β} {es : List (κ × β)}
    (h : Ascending (es.map Prod.fst)) : Ascending ((alterAscending k f es).map Prod.fst) := by
  induction es with
  | nil => simp [alterAscending, Ascending]
  | cons e es ih =>
    have he := List.pairwise_cons.1 h
    unfold alterAscending
    split
    · next hlt =>
      refine List.pairwise_cons.2 ⟨fun x hx => ?_, h⟩
      rcases List.mem_cons.1 hx with rfl | hx
      · exact hlt
      · exact Std.TransCmp.lt_trans hlt (he.1 x hx)
    · exact h
    · next hgt =>
      refine List.pairwise_cons.2 ⟨fun x hx => ?_, ih he.2⟩
      rcases mem_keys_alterAscending.1 hx with rfl | hx
      · exact Std.OrientedCmp.lt_of_gt hgt
      · exact he.1 x hx

theorem lookupAscending_alterAscending [DecidableEq κ] {k x : κ} {f : Option β → β} {es : List (κ × β)}
    (h : Ascending (es.map Prod.fst)) :
    lookupAscending x (alterAscending k f es) =
      if x = k then some (f (lookupAscending k es)) else lookupAscending x es := by
  induction es with
  | nil => simp [alterAscending, lookupAscending]
  | cons e es ih =>
    have he := List.pairwise_cons.1 h
    unfold alterAscending
    split
    · next hlt =>
      have hk : lookupAscending k es = none :=
        lookupAscending_eq_none fun y hy => Std.TransCmp.lt_trans hlt (he.1 y hy)
      by_cases hx : x = k
      · subst hx; simp [lookupAscending, hlt, hk]
      · simp [lookupAscending, hx]
    · next heq =>
      have hk : k = e.1 := Std.LawfulEqOrd.eq_of_compare heq
      subst hk
      by_cases hx : x = e.1
      · subst hx; simp [lookupAscending]
      · simp [lookupAscending, hx]
    · next hgt =>
      have hne : k ≠ e.1 := by rintro rfl; simp at hgt
      by_cases hx : x = e.1
      · subst hx; simp [lookupAscending, hne.symm]
      · simp only [lookupAscending, Std.LawfulEqOrd.compare_eq_iff_eq, hx, hne, if_false]
        exact ih he.2

/-- Lists of entries with ascending keys and the same look-ups are equal. -/
theorem entries_ext : ∀ {es fs : List (κ × β)}, Ascending (es.map Prod.fst) → Ascending (fs.map Prod.fst) →
    (∀ k, lookupAscending k es = lookupAscending k fs) → es = fs
  | [], [], _, _, _ => rfl
  | [], f :: _, _, _, h => absurd (h f.1) (by simp [lookupAscending])
  | e :: _, [], _, _, h => absurd (h e.1) (by simp [lookupAscending])
  | e :: es, f :: fs, he, hf, h => by
    have he' := List.pairwise_cons.1 he
    have hf' := List.pairwise_cons.1 hf
    have hk : e.1 = f.1 := by
      match hc : compare e.1 f.1 with
      | .eq => exact Std.LawfulEqOrd.eq_of_compare hc
      | .lt =>
        have absent : lookupAscending e.1 (f :: fs) = none := lookupAscending_eq_none fun y hy => by
          rcases List.mem_cons.1 hy with rfl | hy
          · exact hc
          · exact Std.TransCmp.lt_trans hc (hf'.1 y hy)
        rw [← h] at absent; simp [lookupAscending] at absent
      | .gt =>
        have hc' := Std.OrientedCmp.lt_of_gt hc
        have absent : lookupAscending f.1 (e :: es) = none := lookupAscending_eq_none fun y hy => by
          rcases List.mem_cons.1 hy with rfl | hy
          · exact hc'
          · exact Std.TransCmp.lt_trans hc' (he'.1 y hy)
        rw [h] at absent; simp [lookupAscending] at absent
    obtain ⟨k, v⟩ := e
    obtain ⟨k', w⟩ := f
    simp only at hk
    subst hk
    have hv : v = w := by simpa [lookupAscending] using h k
    subst hv
    congr 1
    refine entries_ext he'.2 hf'.2 fun x => ?_
    by_cases hx : x = k
    · subst hx
      rw [lookupAscending_eq_none he'.1, lookupAscending_eq_none hf'.1]
    · simpa [lookupAscending, hx] using h x

end Lists

/-- A finite map, as the list of its entries with ascending keys. -/
structure SortedMap (κ β : Type) [Ord κ] where
  entries : List (κ × β)
  ascending : Ascending (entries.map Prod.fst)

namespace SortedMap

variable {κ β : Type} [Ord κ]

instance [DecidableEq κ] [DecidableEq β] : DecidableEq (SortedMap κ β) := fun m n =>
  decidable_of_iff (m.entries = n.entries) ⟨fun h => by cases m; cases n; simpa using h, fun h => by rw [h]⟩

/-- The map without entries. -/
def empty : SortedMap κ β := ⟨[], ascending_nil⟩

instance : Inhabited (SortedMap κ β) := ⟨empty⟩

/-- The value under `k`. -/
def get? (m : SortedMap κ β) (k : κ) : Option β := lookupAscending k m.entries

/-- Is there a value under `k`? -/
def contains (m : SortedMap κ β) (k : κ) : Bool := (m.get? k).isSome

/-- How many entries the map has. -/
def size (m : SortedMap κ β) : Nat := m.entries.length

/-- Has the map no entry? -/
def isEmpty (m : SortedMap κ β) : Bool := m.entries.isEmpty

@[simp] theorem get?_empty (k : κ) : (empty : SortedMap κ β).get? k = none := rfl

theorem contains_iff_get? {m : SortedMap κ β} {k : κ} : m.contains k = true ↔ ∃ v, m.get? k = some v :=
  Option.isSome_iff_exists

variable [Std.LawfulEqOrd κ]

theorem mem_entries {m : SortedMap κ β} {k : κ} {v : β} : (k, v) ∈ m.entries ↔ m.get? k = some v :=
  (lookupAscending_eq_some_iff m.ascending).symm

variable [Std.TransOrd κ]

/-- Replace what stands under `k` by `f` of it. -/
def alter (m : SortedMap κ β) (k : κ) (f : Option β → β) : SortedMap κ β :=
  ⟨alterAscending k f m.entries, ascending_keys_alterAscending m.ascending⟩

/-- Put `v` under `k`, in place of what stood there. -/
def put (m : SortedMap κ β) (k : κ) (v : β) : SortedMap κ β := m.alter k fun _ => v

/-- The map of the pairs of `es`; of two pairs with one key the later counts. -/
def ofList (es : List (κ × β)) : SortedMap κ β := es.foldl (fun m e => m.put e.1 e.2) empty

theorem get?_alter [DecidableEq κ] {m : SortedMap κ β} {k x : κ} {f : Option β → β} :
    (m.alter k f).get? x = if x = k then some (f (m.get? k)) else m.get? x :=
  lookupAscending_alterAscending m.ascending

/-- A map is determined by its look-ups. -/
theorem ext_get? {m n : SortedMap κ β} (h : ∀ k, m.get? k = n.get? k) : m = n := by
  cases m with | mk es he => cases n with | mk fs hf =>
  have : es = fs := entries_ext he hf h
  subst this
  rfl

theorem get?_put [DecidableEq κ] {m : SortedMap κ β} {k x : κ} {v : β} :
    (m.put k v).get? x = if x = k then some v else m.get? x := get?_alter

theorem entries_put_perm {m : SortedMap κ β} {k : κ} {v : β} (h : m.get? k = none) :
    (m.put k v).entries.Perm ((k, v) :: m.entries) := alterAscending_perm h

theorem size_put {m : SortedMap κ β} {k : κ} {v : β} (h : m.get? k = none) : (m.put k v).size = m.size + 1 :=
  (entries_put_perm h).length_eq

/-- Putting in entries with ascending keys: what they hold comes before what was there. -/
theorem get?_foldl_put [DecidableEq κ] {es : List (κ × β)} {m : SortedMap κ β} {k : κ}
    (h : Ascending (es.map Prod.fst)) :
    (es.foldl (fun m e => m.put e.1 e.2) m).get? k = (lookupAscending k es).or (m.get? k) := by
  induction es generalizing m with
  | nil => rfl
  | cons e es ih =>
    have he := List.pairwise_cons.1 h
    rw [List.foldl_cons, ih he.2, get?_put, lookupAscending]
    by_cases hk : k = e.1
    · subst hk
      simp [lookupAscending_eq_none he.1]
    · simp [hk]

/-- A map is the map of its entries. -/
theorem ofList_entries [DecidableEq κ] (m : SortedMap κ β) : ofList m.entries = m := by
  refine ext_get? fun k => ?_
  rw [ofList, get?_foldl_put m.ascending, get?_empty, Option.or_none]
  rfl

end SortedMap

end ConfigCoverage
