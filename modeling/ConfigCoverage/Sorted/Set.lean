/-!
# Sorted sets

A finite set kept as the strictly ascending list of its members. Two sets with the same members are equal, and the list
is the order in which a set is written out.

* `mem_insert`: an insertion adds one member.
* `ext_mem`: a set is determined by its members.
-/

namespace ConfigCoverage

section Lists

variable {α : Type} [Ord α]

/-- Strictly ascending. -/
def Ascending (xs : List α) : Prop := xs.Pairwise (fun a b => compare a b = .lt)

theorem ascending_nil : Ascending ([] : List α) := List.Pairwise.nil

/-- Put `a` at its place; a member that is already there stays. -/
def insertAscending (a : α) : List α → List α
  | [] => [a]
  | b :: bs =>
    match compare a b with
    | .lt => a :: b :: bs
    | .eq => b :: bs
    | .gt => b :: insertAscending a bs

variable [Std.LawfulEqOrd α]

theorem mem_insertAscending {x a : α} {xs : List α} : x ∈ insertAscending a xs ↔ x = a ∨ x ∈ xs := by
  induction xs with
  | nil => simp [insertAscending]
  | cons b bs ih =>
    unfold insertAscending
    split
    · simp
    · next h => simp [Std.LawfulEqOrd.eq_of_compare h]
    · simp only [List.mem_cons, ih]; exact or_left_comm

variable [Std.TransOrd α]

theorem ascending_insertAscending {a : α} {xs : List α} (h : Ascending xs) : Ascending (insertAscending a xs) := by
  induction xs with
  | nil => simp [insertAscending, Ascending]
  | cons b bs ih =>
    have hb := List.pairwise_cons.1 h
    unfold insertAscending
    split
    · next hlt =>
      refine List.pairwise_cons.2 ⟨fun x hx => ?_, h⟩
      rcases List.mem_cons.1 hx with rfl | hx
      · exact hlt
      · exact Std.TransCmp.lt_trans hlt (hb.1 x hx)
    · exact h
    · next hgt =>
      refine List.pairwise_cons.2 ⟨fun x hx => ?_, ih hb.2⟩
      rcases mem_insertAscending.1 hx with rfl | hx
      · exact Std.OrientedCmp.lt_of_gt hgt
      · exact hb.1 x hx

/-- Ascending lists with the same members are equal. -/
theorem ascending_ext : ∀ {xs ys : List α}, Ascending xs → Ascending ys → (∀ x, x ∈ xs ↔ x ∈ ys) → xs = ys
  | [], [], _, _, _ => rfl
  | [], y :: _, _, _, h => absurd ((h y).2 (by simp)) (by simp)
  | x :: _, [], _, _, h => absurd ((h x).1 (by simp)) (by simp)
  | x :: xs, y :: ys, hx, hy, h => by
    have irrefl : ∀ {a : α}, ¬ compare a a = .lt := fun h => by simp at h
    have hx' := List.pairwise_cons.1 hx
    have hy' := List.pairwise_cons.1 hy
    have hxy : x = y := by
      rcases List.mem_cons.1 ((h x).1 (by simp)) with rfl | h1
      · rfl
      · rcases List.mem_cons.1 ((h y).2 (by simp)) with rfl | h2
        · rfl
        · exact absurd (Std.TransCmp.lt_trans (hx'.1 _ h2) (hy'.1 _ h1)) irrefl
    subst hxy
    congr 1
    refine ascending_ext hx'.2 hy'.2 fun z => ?_
    have hz := h z
    simp only [List.mem_cons] at hz
    constructor
    · intro hm
      rcases hz.1 (Or.inr hm) with rfl | h'
      · exact absurd (hx'.1 _ hm) irrefl
      · exact h'
    · intro hm
      rcases hz.2 (Or.inr hm) with rfl | h'
      · exact absurd (hy'.1 _ hm) irrefl
      · exact h'

end Lists

/-- A finite set, as the ascending list of its members. -/
structure SortedSet (α : Type) [Ord α] where
  toList : List α
  ascending : Ascending toList

namespace SortedSet

variable {α : Type} [Ord α]

instance [DecidableEq α] : DecidableEq (SortedSet α) := fun s t =>
  decidable_of_iff (s.toList = t.toList) ⟨fun h => by cases s; cases t; simpa using h, fun h => by rw [h]⟩

/-- No member. -/
def empty : SortedSet α := ⟨[], ascending_nil⟩

instance : Inhabited (SortedSet α) := ⟨empty⟩

instance : Membership α (SortedSet α) := ⟨fun s a => a ∈ s.toList⟩

theorem mem_def {s : SortedSet α} {a : α} : a ∈ s ↔ a ∈ s.toList := Iff.rfl

instance [DecidableEq α] (a : α) (s : SortedSet α) : Decidable (a ∈ s) :=
  inferInstanceAs (Decidable (a ∈ s.toList))

/-- Is `a` a member? -/
def contains [DecidableEq α] (s : SortedSet α) (a : α) : Bool := decide (a ∈ s)

/-- Has the set no member? -/
def isEmpty (s : SortedSet α) : Bool := s.toList.isEmpty

@[simp] theorem contains_iff_mem [DecidableEq α] {s : SortedSet α} {a : α} : s.contains a = true ↔ a ∈ s := by
  simp [contains]

@[simp] theorem not_mem_empty (a : α) : ¬ a ∈ (empty : SortedSet α) := by simp [mem_def, empty]

variable [Std.TransOrd α] [Std.LawfulEqOrd α]

/-- The set with `a` added. -/
def insert (s : SortedSet α) (a : α) : SortedSet α :=
  ⟨insertAscending a s.toList, ascending_insertAscending s.ascending⟩

/-- The set with every element of `xs` added. -/
def insertMany (s : SortedSet α) (xs : List α) : SortedSet α := xs.foldl insert s

/-- The set of the elements of `xs`. -/
def ofList (xs : List α) : SortedSet α := empty.insertMany xs

/-- The members of either set. -/
def union (s t : SortedSet α) : SortedSet α := s.insertMany t.toList

@[simp] theorem mem_insert {s : SortedSet α} {x a : α} : x ∈ s.insert a ↔ x = a ∨ x ∈ s := mem_insertAscending

@[simp] theorem mem_insertMany {s : SortedSet α} {xs : List α} {x : α} : x ∈ s.insertMany xs ↔ x ∈ s ∨ x ∈ xs := by
  unfold insertMany
  induction xs generalizing s with
  | nil => simp
  | cons a as ih => simp only [List.foldl_cons, ih, mem_insert, List.mem_cons]; grind

@[simp] theorem mem_ofList {xs : List α} {x : α} : x ∈ ofList xs ↔ x ∈ xs := by simp [ofList]

@[simp] theorem mem_union {s t : SortedSet α} {x : α} : x ∈ s.union t ↔ x ∈ s ∨ x ∈ t := by
  simp [union, mem_def (s := t)]

/-- A set is determined by its members. -/
theorem ext_mem {s t : SortedSet α} (h : ∀ x, x ∈ s ↔ x ∈ t) : s = t := by
  cases s with | mk xs hx => cases t with | mk ys hy =>
  have : xs = ys := ascending_ext hx hy h
  subst this
  rfl

/-- A set is the set of its members. -/
theorem ofList_toList (s : SortedSet α) : ofList s.toList = s := ext_mem fun x => by rw [mem_ofList, mem_def]

end SortedSet

end ConfigCoverage
