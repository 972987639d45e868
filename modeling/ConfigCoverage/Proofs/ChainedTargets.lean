import ConfigCoverage.Proofs.Alias
import ConfigCoverage.Proofs.Results
import ConfigCoverage.Proofs.Walk
import ConfigCoverage.Python.Lowering

/-!
# Chains of assignments

`a = b.max = c = e` gives one value to all its targets. It is lowered to an assignment for each target, from left to
right, and each of these looks at the value anew. A target may be the name that the value is, or the receiver of a later
target; still every target is bound alike, for no assignment of a chain changes whether the value is an instance of the
module.

* `isModuleValue_set`: an assignment of a value does not change whether the value is an instance of the module.
* `state_foldl_lowerTarget`: what names stand for after the targets of a chain.
* `stmtProperty_lowerTarget`: what a target sets.
* `lowerStatement_chain`: the names and the properties of a chain.
-/

namespace ConfigCoverage

variable {propertyName : String → Option String} {m : ModuleId} {b : Bindings}

/-- An assignment of a value does not change whether the value is an instance of the module, not even if its target is
the name that the value is. -/
theorem isModuleValue_set (m : ModuleId) (b : Bindings) (x : String) (e : Expr) :
    isModuleValue m (b.set x (.ofModule (isModuleValue m b e))) e = isModuleValue m b e := by
  rw [Bool.eq_iff_iff, isModuleValue_eq_true_iff, isModuleValue_eq_true_iff]
  refine or_congr_right (exists_congr fun y => and_congr_right fun he => ?_)
  rw [Bindings.state_set]
  split
  · rw [Binding.ofModule_eq_module, isModuleValue_eq_true_iff, he]
    simp
  · rfl

namespace Python

/-! ## Targets -/

/-- The name that a target is. -/
def targetName? : Term → Option String
  | .name id => some id
  | _ => none

/-- The names among the targets of a chain. -/
def chainNames (targets : List Term) : List String := targets.filterMap targetName?

/-- Only a target that is a name is bound. -/
theorem bindStmt_lowerTarget (m : ModuleId) (b : Bindings) (e : Expr) (target : Term) :
    bindStmt m b (lowerTarget e target) =
      (targetName? target).elim b fun x => b.set x (.ofModule (isModuleValue m b e)) := by
  cases target <;> rfl

/-- A target keeps what the value of its chain is. -/
theorem isModuleValue_lowerTarget (m : ModuleId) (b : Bindings) (e : Expr) (target : Term) :
    isModuleValue m (bindStmt m b (lowerTarget e target)) e = isModuleValue m b e := by
  rw [bindStmt_lowerTarget]
  cases targetName? target with
  | none => rfl
  | some x => exact isModuleValue_set m b x e

theorem state_lowerTarget (m : ModuleId) (b : Bindings) (e : Expr) (target : Term) (x : String) :
    (bindStmt m b (lowerTarget e target)).state x =
      if targetName? target = some x then .ofModule (isModuleValue m b e) else b.state x := by
  rw [bindStmt_lowerTarget]
  cases targetName? target with
  | none => rfl
  | some y =>
    rw [Option.elim_some, Bindings.state_set]
    simp only [Option.some.injEq, eq_comm]

/-- What names stand for after the targets of a chain. The value is looked at anew for each target, and is each time
what it was before the first. -/
theorem state_foldl_lowerTarget (m : ModuleId) (b : Bindings) (e : Expr) (targets : List Term) (x : String) :
    ((targets.map (lowerTarget e)).foldl (bindStmt m) b).state x =
      if x ∈ chainNames targets then .ofModule (isModuleValue m b e) else b.state x := by
  induction targets generalizing b with
  | nil => rfl
  | cons target targets ih =>
    have hnames : x ∈ chainNames (target :: targets) ↔ targetName? target = some x ∨ x ∈ chainNames targets := by
      simp [chainNames]
    rw [List.map_cons, List.foldl_cons, ih, isModuleValue_lowerTarget, state_lowerTarget]
    by_cases hlater : x ∈ chainNames targets
    · rw [if_pos hlater, if_pos (hnames.2 (.inr hlater))]
    · simp only [hnames, hlater, if_false, or_false]

/-- Only a name is lowered to a name. -/
theorem lowerTerm_eq_name_iff {t : Term} {x : String} : lowerTerm t = .name x ↔ t = .name x := by
  cases t with
  | name id => simp [lowerTerm]
  | call text func args keywords =>
    refine iff_of_false ?_ nofun
    unfold lowerTerm
    cases func with
    | member | name => dsimp only; split <;> nofun
    | call | string | bool | none | number | sequence | subscript | other => nofun
  | member | string | bool | none | number | sequence | subscript | other =>
    simp [lowerTerm]

/-- A target sets a property iff it is a member of a name that stands for the module. -/
theorem stmtProperty_lowerTarget {e : Expr} {target : Term} {p : Property} :
    stmtProperty propertyName b (lowerTarget e target) = some p ↔
      ∃ text x, target = .member text (.name x) p.name ∧ b.state x = .module ∧ p.value = e.spelling := by
  cases target with
  | member text value attr =>
    rw [lowerTarget, lowerTerm, stmtProperty, Option.ite_none_right_eq_some, Bindings.refersToModule_eq_true_iff,
      Option.some.injEq]
    constructor
    · rintro ⟨⟨x, hx, hmodule⟩, rfl⟩
      rw [lowerTerm_eq_name_iff] at hx
      exact ⟨text, x, by rw [hx], hmodule, rfl⟩
    · rintro ⟨text', x, htarget, hmodule, hvalue⟩
      cases htarget
      exact ⟨⟨x, rfl, hmodule⟩, by rw [← hvalue]⟩
  | name | call | string | bool | none | number | sequence | subscript | other =>
    refine iff_of_false (fun h => Option.some_ne_none p (h.symm.trans rfl)) ?_
    rintro ⟨_, _, htarget, -⟩
    cases htarget

/-! ## Chains -/

/-- The value of a chain is an instance of the module: a construction of its type, or a name that stands for it. -/
def HoldsModule (m : ModuleId) (b : Bindings) (value : Term) : Prop :=
  (∃ t args, lowerTerm value = .new t args ∧ m.matchesType t = true) ∨ ∃ y, value = .name y ∧ b.state y = .module

theorem holdsModule_iff {value : Term} : HoldsModule m b value ↔ isModuleValue m b (lowerTerm value) = true := by
  simp only [HoldsModule, isModuleValue_eq_true_iff, lowerTerm_eq_name_iff]

/-- Where a chain has come past the targets `earlier`, `x` stands for the module: it is one of them and the value is an
instance, or it is none of them and stood for the module before. -/
def ModulePast (m : ModuleId) (b : Bindings) (earlier : List Term) (value : Term) (x : String) : Prop :=
  (x ∈ chainNames earlier ∧ HoldsModule m b value) ∨ (x ∉ chainNames earlier ∧ b.state x = .module)

theorem modulePast_iff {earlier : List Term} {value : Term} {x : String} :
    ModulePast m b earlier value x ↔
      ((earlier.map (lowerTarget (lowerTerm value))).foldl (bindStmt m) b).state x = .module := by
  rw [state_foldl_lowerTarget, ModulePast, holdsModule_iff]
  by_cases hx : x ∈ chainNames earlier
  · rw [if_pos hx, Binding.ofModule_eq_module]
    simp [hx]
  · rw [if_neg hx]
    simp [hx]

theorem flatten_chain (targets : List Term) (value : Term) :
    flatten (lowerStatement (.assign targets value)) = lowerStatement (.assign targets value) := by
  rw [lowerStatement]
  induction targets with
  | nil => rfl
  | cons target targets ih =>
    have hleaf : (lowerTarget (lowerTerm value) target).isBlock = false := by cases target <;> rfl
    rw [List.map_cons, flatten_leaf_cons hleaf, ih]

theorem exists_split_of_getElem? {α : Type} {l : List α} {i : Nat} {a : α} (h : l[i]? = some a) :
    ∃ before after, l = before ++ a :: after ∧ before.length = i := by
  obtain ⟨hi, ha⟩ := List.getElem?_eq_some_iff.1 h
  refine ⟨l.take i, l.drop (i + 1), ?_, List.length_take_of_le (Nat.le_of_lt hi)⟩
  rw [← ha, ← List.drop_eq_getElem_cons hi, List.take_append_drop]

/-- The statement of a target with the bindings at its place, and what it sets. -/
theorem exists_stmtProperty_target (propertyName : String → Option String) (m : ModuleId) (b : Bindings)
    (earlier later : List Term) (target value : Term) :
    ∃ s b', (lowerStatement (.assign (earlier ++ target :: later) value))[earlier.length]? = some s ∧
      (trackFrom m b (lowerStatement (.assign (earlier ++ target :: later) value)))[earlier.length]? = some b' ∧
      ∀ p, stmtProperty propertyName b' s = some p ↔
        ∃ text x, target = .member text (.name x) p.name ∧ ModulePast m b earlier value x ∧
          p.value = (lowerTerm value).spelling := by
  have htake : ((earlier ++ target :: later).map (lowerTarget (lowerTerm value))).take (earlier.length + 1) =
      earlier.map (lowerTarget (lowerTerm value)) ++ [lowerTarget (lowerTerm value) target] := by
    rw [← List.map_take, List.take_length_add_append, List.map_append]
    rfl
  refine ⟨lowerTarget (lowerTerm value) target, _, by simp [lowerStatement],
    getElem?_trackFrom m b _ (by simp [lowerStatement]), fun p => ?_⟩
  rw [lowerStatement, htake, List.foldl_append, stmtProperty_lowerTarget]
  refine exists_congr fun text => exists_congr fun x => and_congr_right fun htarget => and_congr_left fun _ => ?_
  -- a member binds nothing, so that the bindings at its place are those of the targets before it
  rw [modulePast_iff, htarget]
  rfl

/-- **All targets of a chain are bound alike.** After a chain, whatever stood for what before it, a name among its
targets stands for the module iff its value was an instance of the module before it, and all other names stand for what
they did. A target sets a property iff it is a member of a name that stands for the module at its place, and then the
value is that of the chain; these are all the properties of the chain. -/
theorem lowerStatement_chain (propertyName : String → Option String) (m : ModuleId) (b : Bindings)
    (targets : List Term) (value : Term) :
    flatten (lowerStatement (.assign targets value)) = lowerStatement (.assign targets value) ∧
    (∀ x ∈ chainNames targets,
      ((lowerStatement (.assign targets value)).foldl (bindStmt m) b).state x ≠ .unbound ∧
      (((lowerStatement (.assign targets value)).foldl (bindStmt m) b).state x = .module ↔ HoldsModule m b value)) ∧
    (∀ x, x ∉ chainNames targets →
      ((lowerStatement (.assign targets value)).foldl (bindStmt m) b).state x = b.state x) ∧
    (∀ earlier target later, targets = earlier ++ target :: later →
      ∃ s b', (lowerStatement (.assign targets value))[earlier.length]? = some s ∧
        (trackFrom m b (lowerStatement (.assign targets value)))[earlier.length]? = some b' ∧
        ∀ p, stmtProperty propertyName b' s = some p ↔
          ∃ text x, target = .member text (.name x) p.name ∧ ModulePast m b earlier value x ∧
            p.value = (lowerTerm value).spelling) ∧
    ∀ p, p ∈ extract propertyName (lowerStatement (.assign targets value))
        (trackFrom m b (lowerStatement (.assign targets value))) ↔
      ∃ earlier text x later, targets = earlier ++ .member text (.name x) p.name :: later ∧
        ModulePast m b earlier value x ∧ p.value = (lowerTerm value).spelling := by
  refine ⟨flatten_chain targets value, fun x hx => ?_, fun x hx => ?_, ?_, fun p => ?_⟩
  · rw [lowerStatement, state_foldl_lowerTarget, if_pos hx, Binding.ofModule_eq_module, holdsModule_iff]
    exact ⟨Binding.ofModule_ne_unbound _, Iff.rfl⟩
  · rw [lowerStatement, state_foldl_lowerTarget, if_neg hx]
  · rintro earlier target later rfl
    exact exists_stmtProperty_target propertyName m b earlier later target value
  · rw [mem_extract]
    constructor
    · rintro ⟨i, s, b', hs, hb', hp⟩
      obtain ⟨target, htarget, -⟩ : ∃ target, targets[i]? = some target ∧ lowerTarget (lowerTerm value) target = s := by
        rwa [lowerStatement, List.getElem?_map, Option.map_eq_some_iff] at hs
      obtain ⟨earlier, later, rfl, rfl⟩ := exists_split_of_getElem? htarget
      obtain ⟨s', b'', hs', hb'', hset⟩ := exists_stmtProperty_target propertyName m b earlier later target value
      obtain rfl : s' = s := Option.some.inj (hs'.symm.trans hs)
      obtain rfl : b'' = b' := Option.some.inj (hb''.symm.trans hb')
      obtain ⟨text, x, rfl, hvalue⟩ := (hset p).1 hp
      exact ⟨earlier, text, x, later, rfl, hvalue⟩
    · rintro ⟨earlier, text, x, later, rfl, hp⟩
      obtain ⟨s, b', hs, hb', hset⟩ :=
        exists_stmtProperty_target propertyName m b earlier later (.member text (.name x) p.name) value
      exact ⟨earlier.length, s, b', hs, hb', (hset p).2 ⟨text, x, rfl, hp⟩⟩

/-- The targets of `c = c.max = a = d.min = a`. -/
def crossedTargets : List Term :=
  [.name "c", .member "c.max" (.name "c") "max", .name "a", .member "d.min" (.name "d") "min"]

/-- If `a` stands for the module, then after the chain `c` does as well and `d` still does not, and only `max` is set:
its receiver is a target before it. -/
theorem lowerStatement_chain_crossed :
    "c" ∈ chainNames crossedTargets ∧ "d" ∉ chainNames crossedTargets ∧
    HoldsModule ⟨"FooCheck"⟩ (Bindings.empty.set "a" .module) (.name "a") ∧
    ((lowerStatement (.assign crossedTargets (.name "a"))).foldl (bindStmt ⟨"FooCheck"⟩)
      (Bindings.empty.set "a" .module)).state "c" = .module ∧
    ((lowerStatement (.assign crossedTargets (.name "a"))).foldl (bindStmt ⟨"FooCheck"⟩)
      (Bindings.empty.set "a" .module)).state "d" = .unbound ∧
    (∃ s b', (lowerStatement (.assign crossedTargets (.name "a")))[1]? = some s ∧
      (trackFrom ⟨"FooCheck"⟩ (Bindings.empty.set "a" .module)
        (lowerStatement (.assign crossedTargets (.name "a"))))[1]? = some b' ∧
      stmtProperty (setterProperty "set") b' s = some ⟨"max", "a"⟩) ∧
    (⟨"max", "a"⟩ : Property) ∈ extract (setterProperty "set") (lowerStatement (.assign crossedTargets (.name "a")))
      (trackFrom ⟨"FooCheck"⟩ (Bindings.empty.set "a" .module)
        (lowerStatement (.assign crossedTargets (.name "a")))) := by
  obtain ⟨-, hnames, hothers, htargets, hproperties⟩ := lowerStatement_chain (setterProperty "set") ⟨"FooCheck"⟩
    (Bindings.empty.set "a" .module) crossedTargets (.name "a")
  have hvalue : HoldsModule ⟨"FooCheck"⟩ (Bindings.empty.set "a" .module) (.name "a") := holdsModule_iff.2 (by decide)
  have hpast : ModulePast ⟨"FooCheck"⟩ (Bindings.empty.set "a" .module) [.name "c"] (.name "a") "c" :=
    .inl ⟨by decide, hvalue⟩
  obtain ⟨s, b', hs, hb', hset⟩ := htargets [.name "c"] (.member "c.max" (.name "c") "max") _ rfl
  refine ⟨by decide, by decide, hvalue, (hnames "c" (by decide)).2.2 hvalue, hothers "d" (by decide),
    ⟨s, b', hs, hb', (hset ⟨"max", "a"⟩).2 ⟨"c.max", "c", rfl, hpast, rfl⟩⟩, ?_⟩
  exact (hproperties ⟨"max", "a"⟩).2 ⟨[.name "c"], "c.max", "c", _, rfl, hpast, rfl⟩

end Python

end ConfigCoverage
