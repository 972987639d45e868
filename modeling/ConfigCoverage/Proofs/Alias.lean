import ConfigCoverage.Binding

/-!
# Last writes and chains of aliases

What a name stands for is decided by its last write, and where that copies another name, by the last write of the other
name before it, and so on down to a statement that makes an instance of the module by itself.

* `unwritten_or_lastWrite`: before every place a name is unwritten or has a last write.
* `state_of_unwritten`, `state_of_lastWrite`: which of the two it is gives the state of the name.
* `state_eq_module_iff`: a name stands for the module iff it denotes it through last writes (`Denotes`).
* `denotes_iff_aliasChain`: `Denotes` spelled out as a finite chain of places and names.
* `track_follows_aliases`: the snapshots of `track` in these terms.
-/

namespace ConfigCoverage

/-! ## Writes -/

/-- The name that a statement writes. -/
def Stmt.written? : Stmt → Option String
  | .localDecl name _ _ => some name
  | .assign (.name name) _ => some name
  | _ => none

/-- The right-hand side of a statement that writes a name. -/
def Stmt.value? : Stmt → Option Expr
  | .localDecl _ _ init => init
  | .assign (.name _) value => some value
  | _ => none

/-- A statement makes its name an instance of the module by itself: it constructs one, or it declares the name with a
type of the module and an initial value that is no construction. -/
def Stmt.Makes (m : ModuleId) (s : Stmt) : Prop :=
  (∃ t args, s.value? = some (.new t args) ∧ m.matchesType t = true) ∨
    ∃ x t e, s = .localDecl x (some t) (some e) ∧ (∀ u args, e ≠ .new u args) ∧ m.matchesType t = true

/-- Statement `j` writes `x`. -/
def WrittenAt (body : List Stmt) (x : String) (j : Nat) : Prop := ∃ s, body[j]? = some s ∧ s.written? = some x

/-- Statement `j` is the last one before place `n` that writes `x`. -/
structure LastWrite (body : List Stmt) (x : String) (n j : Nat) : Prop where
  before : j < n
  written : WrittenAt body x j
  last : ∀ k, j < k → k < n → ¬ WrittenAt body x k

variable {m : ModuleId} {body : List Stmt} {x : String}

/-- Before every place a name is unwritten or has a last write. -/
theorem unwritten_or_lastWrite (body : List Stmt) (x : String) (n : Nat) :
    (∀ j < n, ¬ WrittenAt body x j) ∨ ∃ j, LastWrite body x n j := by
  induction n with
  | zero => exact .inl fun j hj => absurd hj (Nat.not_lt_zero j)
  | succ n ih =>
    by_cases hn : WrittenAt body x n
    · exact .inr ⟨n, Nat.lt_succ_self n, hn, fun k h₁ h₂ => by omega⟩
    · rcases ih with hu | ⟨j, hj, hw, hl⟩
      · refine .inl fun j hj => ?_
        rcases Nat.lt_or_eq_of_le (Nat.le_of_lt_succ hj) with h | rfl
        · exact hu j h
        · exact hn
      · refine .inr ⟨j, Nat.lt_succ_of_lt hj, hw, fun k h₁ h₂ => ?_⟩
        rcases Nat.lt_or_eq_of_le (Nat.le_of_lt_succ h₂) with h | rfl
        · exact hl k h₁ h
        · exact hn

theorem LastWrite.writes {n j : Nat} {s : Stmt} (hj : LastWrite body x n j) (hs : body[j]? = some s) :
    s.written? = some x := by
  obtain ⟨s', hs', hw⟩ := hj.written
  rw [Option.some.inj (hs.symm.trans hs')]
  exact hw

/-! ## One statement -/

/-- What a statement makes of the name it writes. -/
def writtenBinding (m : ModuleId) (b : Bindings) : Stmt → Binding
  | .localDecl _ declaredType init => declaredBinding m b declaredType init
  | .assign _ value => .ofModule (isModuleValue m b value)
  | _ => .unbound

/-- A statement changes the state of the name it writes, and of no other. -/
theorem state_bindStmt (m : ModuleId) (b : Bindings) (s : Stmt) (x : String) :
    (bindStmt m b s).state x = if s.written? = some x then writtenBinding m b s else b.state x := by
  fun_cases bindStmt m b s with
  | case1 name declaredType init =>
    rw [Bindings.state_set]
    simp only [Stmt.written?, writtenBinding, Option.some.injEq, eq_comm]
  | case2 name value =>
    rw [Bindings.state_set]
    simp only [Stmt.written?, writtenBinding, Option.some.injEq, eq_comm]
  | case3 s h₁ h₂ =>
    have hw : s.written? = none := by
      fun_cases Stmt.written? s with
      | case1 name _ _ => exact absurd rfl (h₁ name _ _)
      | case2 name _ => exact absurd rfl (h₂ name _)
      | case3 => rfl
    rw [hw, if_neg (by simp)]

@[simp] theorem Binding.ofModule_ne_unbound (p : Bool) : Binding.ofModule p ≠ .unbound := by
  cases p <;> simp [Binding.ofModule]

@[simp] theorem Binding.ofModule_eq_module {p : Bool} : Binding.ofModule p = .module ↔ p = true := by
  cases p <;> simp [Binding.ofModule]

theorem isModuleValue_eq_true_iff {b : Bindings} {e : Expr} :
    isModuleValue m b e = true ↔
      (∃ t args, e = .new t args ∧ m.matchesType t = true) ∨ ∃ y, e = .name y ∧ b.state y = .module := by
  cases e <;> simp [isModuleValue, Bindings.refersToModule, Bindings.isModule]

/-- A declaration with an initial value binds by a construction, by its type, or by the name it copies. -/
theorem declaredBinding_eq_module_iff {b : Bindings} {declaredType : Option String} {e : Expr} :
    declaredBinding m b declaredType (some e) = .module ↔
      (∃ t args, e = .new t args ∧ m.matchesType t = true) ∨
      (∃ t, declaredType = some t ∧ (∀ u args, e ≠ .new u args) ∧ m.matchesType t = true) ∨
      ∃ y, e = .name y ∧ b.state y = .module := by
  cases e <;> cases declaredType <;>
    simp [declaredBinding, Bindings.refersToModule, Bindings.isModule]

/-- A write leaves its name unbound only where there is no value to write. -/
theorem writtenBinding_eq_unbound_iff {b : Bindings} {s : Stmt} (hw : s.written? = some x) :
    writtenBinding m b s = .unbound ↔ ∃ declaredType, s = .localDecl x declaredType none := by
  fun_cases Stmt.written? s with
  | case1 name declaredType init =>
    cases hw
    cases init with
    | none => simp [writtenBinding, declaredBinding]
    | some e => cases e <;> simp [writtenBinding, declaredBinding]
  | case2 name value => simp [writtenBinding]
  | case3 h₁ h₂ => simp [Stmt.written?, *] at hw

/-- A write makes its name an instance of the module by itself or by the name it copies. -/
theorem writtenBinding_eq_module_iff {b : Bindings} {s : Stmt} (hw : s.written? = some x) :
    writtenBinding m b s = .module ↔
      s.Makes m ∨ ∃ y, s.value? = some (.name y) ∧ b.state y = .module := by
  fun_cases Stmt.written? s with
  | case1 name declaredType init =>
    cases init with
    | none => simp [writtenBinding, declaredBinding, Stmt.Makes, Stmt.value?]
    | some e =>
      simp only [writtenBinding, declaredBinding_eq_module_iff, Stmt.Makes, Stmt.value?, Option.some.injEq,
        Stmt.localDecl.injEq]
      grind
  | case2 name value =>
    simp [writtenBinding, isModuleValue_eq_true_iff, Stmt.Makes, Stmt.value?]
  | case3 h₁ h₂ => simp [Stmt.written?, *] at hw

/-! ## Bindings at a place -/

/-- The bindings after the first `n` statements. -/
def bindingsBefore (m : ModuleId) (body : List Stmt) (n : Nat) : Bindings := (body.take n).foldl (bindStmt m) .empty

theorem bindingsBefore_succ {n : Nat} {s : Stmt} (hs : body[n]? = some s) :
    bindingsBefore m body (n + 1) = bindStmt m (bindingsBefore m body n) s := by
  unfold bindingsBefore
  rw [List.take_add_one, hs, List.foldl_append]
  rfl

theorem bindingsBefore_succ_of_none {n : Nat} (hn : body[n]? = none) :
    bindingsBefore m body (n + 1) = bindingsBefore m body n := by
  unfold bindingsBefore
  rw [List.take_add_one, hn, Option.toList_none, List.append_nil]

@[simp] theorem length_trackFrom (m : ModuleId) (b : Bindings) (ss : List Stmt) :
    (trackFrom m b ss).length = ss.length := by
  induction ss generalizing b with
  | nil => rfl
  | cons s ss ih => simp [trackFrom, ih]

@[simp] theorem length_track (m : ModuleId) (body : List Stmt) : (track m body).length = body.length :=
  length_trackFrom m .empty body

theorem getElem?_trackFrom (m : ModuleId) (b : Bindings) (ss : List Stmt) {i : Nat} (hi : i < ss.length) :
    (trackFrom m b ss)[i]? = some ((ss.take (i + 1)).foldl (bindStmt m) b) := by
  induction ss generalizing b i with
  | nil => exact absurd hi (Nat.not_lt_zero i)
  | cons s ss ih =>
    cases i with
    | zero => rfl
    | succ i => exact ih (bindStmt m b s) (Nat.lt_of_succ_lt_succ hi)

/-- Snapshot `i` holds the writes of the statements up to `i`, that of `i` included. -/
theorem getElem?_track {i : Nat} (hi : i < body.length) :
    (track m body)[i]? = some (bindingsBefore m body (i + 1)) := getElem?_trackFrom m .empty body hi

/-- Only a write of `x` changes the state of `x`. -/
theorem state_succ_of_not_written {n : Nat} (hn : ¬ WrittenAt body x n) :
    (bindingsBefore m body (n + 1)).state x = (bindingsBefore m body n).state x := by
  cases hs : body[n]? with
  | none => rw [bindingsBefore_succ_of_none hs]
  | some s => rw [bindingsBefore_succ hs, state_bindStmt, if_neg fun hw => hn ⟨s, hs, hw⟩]

/-- A name that is never written is unbound. -/
theorem state_of_unwritten {n : Nat} (hu : ∀ j < n, ¬ WrittenAt body x j) :
    (bindingsBefore m body n).state x = .unbound := by
  induction n with
  | zero => rfl
  | succ n ih =>
    rw [state_succ_of_not_written (hu n (Nat.lt_succ_self n))]
    exact ih fun j hj => hu j (Nat.lt_succ_of_lt hj)

/-- The last write of a name gives its state, under the bindings right before that write. -/
theorem state_of_lastWrite {n j : Nat} {s : Stmt} (hj : LastWrite body x n j) (hs : body[j]? = some s) :
    (bindingsBefore m body n).state x = writtenBinding m (bindingsBefore m body j) s := by
  have hw := hj.writes hs
  obtain ⟨hlt, -, hlast⟩ := hj
  induction n with
  | zero => exact absurd hlt (Nat.not_lt_zero j)
  | succ n ih =>
    rcases Nat.lt_or_eq_of_le (Nat.le_of_lt_succ hlt) with h | rfl
    · rw [state_succ_of_not_written (hlast n h (Nat.lt_succ_self n))]
      exact ih h fun k h₁ h₂ => hlast k h₁ (Nat.lt_succ_of_lt h₂)
    · rw [bindingsBefore_succ hs, state_bindStmt, if_pos hw]

/-- The last write makes a name an instance of the module by itself or by the name it copies. -/
theorem state_eq_module_of_lastWrite {n j : Nat} {s : Stmt} (hj : LastWrite body x n j) (hs : body[j]? = some s) :
    (bindingsBefore m body n).state x = .module ↔
      s.Makes m ∨ ∃ y, s.value? = some (.name y) ∧ (bindingsBefore m body j).state y = .module := by
  rw [state_of_lastWrite hj hs]
  exact writtenBinding_eq_module_iff (hj.writes hs)

/-- A name is unbound iff it is unwritten or last declared without a value. -/
theorem state_eq_unbound_iff {n : Nat} :
    (bindingsBefore m body n).state x = .unbound ↔
      (∀ j < n, ¬ WrittenAt body x j) ∨
      ∃ j declaredType, LastWrite body x n j ∧ body[j]? = some (.localDecl x declaredType none) := by
  constructor
  · intro h
    rcases unwritten_or_lastWrite body x n with hu | ⟨j, hj⟩
    · exact .inl hu
    · obtain ⟨s, hs, hw⟩ := hj.written
      rw [state_of_lastWrite hj hs, writtenBinding_eq_unbound_iff hw] at h
      obtain ⟨declaredType, rfl⟩ := h
      exact .inr ⟨j, declaredType, hj, hs⟩
  · rintro (hu | ⟨j, declaredType, hj, hs⟩)
    · exact state_of_unwritten hu
    · rw [state_of_lastWrite hj hs]; rfl

/-! ## What a name denotes -/

/-- `x`, read before place `n`, denotes the module: its last write makes an instance by itself, or copies a name that
denotes the module at that write. -/
inductive Denotes (m : ModuleId) (body : List Stmt) : Nat → String → Prop
  | made {n j : Nat} {x : String} {s : Stmt} :
    LastWrite body x n j → body[j]? = some s → s.Makes m → Denotes m body n x
  | copied {n j : Nat} {x y : String} {s : Stmt} :
    LastWrite body x n j → body[j]? = some s → s.value? = some (.name y) → Denotes m body j y → Denotes m body n x

/-- **Last writes decide**: the bindings show a name as the module iff it denotes the module. -/
theorem state_eq_module_iff {n : Nat} : (bindingsBefore m body n).state x = .module ↔ Denotes m body n x := by
  constructor
  · intro h
    -- on the place: a name that is copied is read at the write, which comes before
    induction n using Nat.strongRecOn generalizing x with
    | _ n ih =>
      rcases unwritten_or_lastWrite body x n with hu | ⟨j, hj⟩
      · rw [state_of_unwritten hu] at h; cases h
      · obtain ⟨s, hs, -⟩ := hj.written
        rcases (state_eq_module_of_lastWrite hj hs).1 h with hm | ⟨y, hv, hy⟩
        · exact .made hj hs hm
        · exact .copied hj hs hv (ih j hj.before hy)
  · intro h
    induction h with
    | made hj hs hm => exact (state_eq_module_of_lastWrite hj hs).2 (.inl hm)
    | copied hj hs hv _ ih => exact (state_eq_module_of_lastWrite hj hs).2 (.inr ⟨_, hv, ih⟩)

/-- A name stands for something else iff its last write has a value and the name does not denote the module. -/
theorem state_eq_other_iff {n : Nat} :
    (bindingsBefore m body n).state x = .other ↔
      (∃ j s, LastWrite body x n j ∧ body[j]? = some s ∧ ∀ declaredType, s ≠ .localDecl x declaredType none) ∧
      ¬ Denotes m body n x := by
  rw [← state_eq_module_iff]
  constructor
  · intro h
    refine ⟨?_, by rw [h]; simp⟩
    rcases unwritten_or_lastWrite body x n with hu | ⟨j, hj⟩
    · rw [state_of_unwritten hu] at h; cases h
    · obtain ⟨s, hs, -⟩ := hj.written
      refine ⟨j, s, hj, hs, fun declaredType he => ?_⟩
      rw [state_of_lastWrite hj hs, he] at h; cases h
  · rintro ⟨⟨j, s, hj, hs, hne⟩, hm⟩
    have hu : (bindingsBefore m body n).state x ≠ .unbound := by
      rw [state_of_lastWrite hj hs]
      intro h
      obtain ⟨declaredType, he⟩ := (writtenBinding_eq_unbound_iff (hj.writes hs)).1 h
      exact hne declaredType he
    cases hb : (bindingsBefore m body n).state x with
    | unbound => exact absurd hb hu
    | module => exact absurd hb hm
    | other => rfl

/-! ## Chains -/

/-- A chain of aliases from `x`, read before place `n`: places `place 0 > … > place k` and names `name 0`, …, `name k`, each
place the last write of its name before the place in front of it. All writes but the last copy the next name; the last
makes an instance of the module by itself. -/
structure AliasChain (m : ModuleId) (body : List Stmt) (n : Nat) (x : String) (k : Nat) (place : Nat → Nat)
    (name : Nat → String) : Prop where
  start : name 0 = x
  first : LastWrite body x n (place 0)
  next : ∀ r < k, LastWrite body (name (r + 1)) (place r) (place (r + 1))
  copies : ∀ r < k, ∃ s, body[place r]? = some s ∧ s.value? = some (.name (name (r + 1)))
  made : ∃ s, body[place k]? = some s ∧ s.Makes m

/-- A chain behind the copy of a name gives a chain from the copy. -/
theorem AliasChain.cons {n j k : Nat} {y : String} {s : Stmt} {place : Nat → Nat} {name : Nat → String}
    (h : AliasChain m body j y k place name) (hj : LastWrite body x n j) (hs : body[j]? = some s)
    (hv : s.value? = some (.name y)) :
    AliasChain m body n x (k + 1) (fun | 0 => j | r + 1 => place r) (fun | 0 => x | r + 1 => name r) where
  start := rfl
  first := hj
  next
    | 0, _ => by
      show LastWrite body (name 0) j (place 0)
      rw [h.start]; exact h.first
    | r + 1, hr => h.next r (Nat.lt_of_succ_lt_succ hr)
  copies
    | 0, _ => by
      refine ⟨s, hs, ?_⟩
      show s.value? = some (.name (name 0))
      rw [h.start]; exact hv
    | r + 1, hr => h.copies r (Nat.lt_of_succ_lt_succ hr)
  made := h.made

/-- A chain with a copy in front goes on from the copied name. -/
theorem AliasChain.tail {n k : Nat} {place : Nat → Nat} {name : Nat → String}
    (h : AliasChain m body n x (k + 1) place name) :
    AliasChain m body (place 0) (name 1) k (fun r => place (r + 1)) (fun r => name (r + 1)) where
  start := rfl
  first := h.next 0 (Nat.succ_pos k)
  next r hr := h.next (r + 1) (Nat.succ_lt_succ hr)
  copies r hr := h.copies (r + 1) (Nat.succ_lt_succ hr)
  made := h.made

theorem Denotes.exists_aliasChain {n : Nat} (h : Denotes m body n x) :
    ∃ k place name, AliasChain m body n x k place name := by
  induction h with
  | @made n j x s hj hs hm =>
    exact ⟨0, fun _ => j, fun _ => x, rfl, hj, fun r hr => absurd hr (Nat.not_lt_zero r),
      fun r hr => absurd hr (Nat.not_lt_zero r), s, hs, hm⟩
  | copied hj hs hv _ ih =>
    obtain ⟨k, place, name, hc⟩ := ih
    exact ⟨k + 1, _, _, hc.cons hj hs hv⟩

theorem AliasChain.denotes {n k : Nat} {place : Nat → Nat} {name : Nat → String}
    (h : AliasChain m body n x k place name) : Denotes m body n x := by
  induction k generalizing n x place name with
  | zero =>
    obtain ⟨s, hs, hm⟩ := h.made
    exact .made h.first hs hm
  | succ k ih =>
    obtain ⟨s, hs, hv⟩ := h.copies 0 (Nat.succ_pos k)
    exact .copied h.first hs hv (ih h.tail)

theorem denotes_iff_aliasChain {n : Nat} :
    Denotes m body n x ↔ ∃ k place name, AliasChain m body n x k place name :=
  ⟨Denotes.exists_aliasChain, fun ⟨_, _, _, h⟩ => h.denotes⟩

/-! ## The snapshots of a body -/

/-- **Snapshots follow chains of aliases.** There is one snapshot for each statement. In snapshot `i` a name is unbound
iff no statement up to `i` writes it or the last that does is a declaration without a value; it stands for the module
iff there is a chain of aliases from it; otherwise it stands for something else. -/
theorem track_follows_aliases (m : ModuleId) (body : List Stmt) :
    (track m body).length = body.length ∧
    ∀ i : Fin body.length, ∃ b, (track m body)[i.val]? = some b ∧ ∀ x,
      (b.state x = .unbound ↔
        (∀ j ≤ i.val, ¬ WrittenAt body x j) ∨
        ∃ j declaredType, LastWrite body x (i.val + 1) j ∧ body[j]? = some (.localDecl x declaredType none)) ∧
      (b.state x = .module ↔ ∃ k place name, AliasChain m body (i.val + 1) x k place name) ∧
      (b.state x = .other ↔
        (∃ j s, LastWrite body x (i.val + 1) j ∧ body[j]? = some s ∧
          ∀ declaredType, s ≠ .localDecl x declaredType none) ∧
        ¬ ∃ k place name, AliasChain m body (i.val + 1) x k place name) := by
  refine ⟨length_track m body, fun i => ⟨_, getElem?_track i.isLt, fun x => ⟨?_, ?_, ?_⟩⟩⟩
  · simp only [← Nat.lt_succ_iff]
    exact state_eq_unbound_iff
  · rw [← denotes_iff_aliasChain]
    exact state_eq_module_iff
  · rw [← denotes_iff_aliasChain]
    exact state_eq_other_iff

end ConfigCoverage
