import ConfigCoverage.Proofs.Helpers

/-!
# Declarations in two statements

`T x = e` and `T x; x = e` mean the same to the program, but not always to the analysis: an assignment looks neither at
the type of its name nor at what the name stood for before the declaration. So the two statements may lose the module,
and they never gain it.

* `lost_iff`: the one case in which the module is lost, by what the declaration and the assignment make of the name.
* `ModulesWithin.emitted_subset`: bindings with fewer names of the module never lead to more properties.
* `BodyGap`: a place in a body, at any depth.
* `testCaseProperties_of_split`: a declaration in two statements at any place of a body.
-/

namespace ConfigCoverage

/-! ## One declaration -/

theorem Bindings.set_set (b : Bindings) (x : String) (s t : Binding) : (b.set x s).set x t = b.set x t := by
  refine congrArg Bindings.mk (SortedMap.ext_get? fun y => ?_)
  simp only [set, SortedMap.get?_put]
  split <;> rfl

variable {propertyName : String → Option String} {m : ModuleId} {b b' : Bindings} {x : String}
  {declaredType : Option String} {e : Expr}

/-- The module is lost when the declaration of `x` with the value `e` is split: the value is no construction and no
other name of the module, and it is only the type or the old meaning of `x` that tells of the module. -/
structure Lost (m : ModuleId) (b : Bindings) (x : String) (declaredType : Option String) (e : Expr) : Prop where
  notConstructed : ∀ t args, e ≠ .new t args
  notCopied : ∀ y, e = .name y → y ≠ x → b.state y ≠ .module
  told : (∃ t, declaredType = some t ∧ m.matchesType t = true) ∨ (e = .name x ∧ b.state x = .module)

/-- The bindings after a declaration without a value and an assignment. -/
theorem bindStmt_split :
    bindStmt m (bindStmt m b (.localDecl x declaredType none)) (.assign (.name x) e) =
      b.set x (.ofModule (isModuleValue m (b.set x .unbound) e)) :=
  b.set_set x _ _

theorem isModuleValue_unbound_iff :
    isModuleValue m (b.set x .unbound) e = true ↔
      (∃ t args, e = .new t args ∧ m.matchesType t = true) ∨ ∃ y, e = .name y ∧ y ≠ x ∧ b.state y = .module := by
  rw [isModuleValue_eq_true_iff]
  refine or_congr_right (exists_congr fun y => and_congr_right fun _ => ?_)
  rw [Bindings.state_set]
  by_cases hy : y = x <;> simp [hy]

/-- An assignment makes of the name no more than the declaration. -/
theorem declaredBinding_of_isModuleValue (h : isModuleValue m (b.set x .unbound) e = true) :
    declaredBinding m b declaredType (some e) = .module := by
  rw [declaredBinding_eq_module_iff]
  rcases isModuleValue_unbound_iff.1 h with hnew | ⟨y, hy, -, hmodule⟩
  · exact .inl hnew
  · exact .inr (.inr ⟨y, hy, hmodule⟩)

/-- The module is lost iff the declaration makes the name the module and the assignment does not. -/
theorem lost_iff :
    Lost m b x declaredType e ↔
      declaredBinding m b declaredType (some e) = .module ∧ isModuleValue m (b.set x .unbound) e = false := by
  rw [declaredBinding_eq_module_iff, ← Bool.not_eq_true, isModuleValue_unbound_iff]
  constructor
  · rintro ⟨hnew, hname, htold⟩
    refine ⟨?_, ?_⟩
    · rcases htold with ⟨t, ht, hmatch⟩ | hself
      · exact .inr (.inl ⟨t, ht, hnew, hmatch⟩)
      · exact .inr (.inr ⟨x, hself⟩)
    · rintro (⟨t, args, ht, -⟩ | ⟨y, hy, hne, hmodule⟩)
      · exact hnew t args ht
      · exact hname y hy hne hmodule
  · rintro ⟨hdeclared, hassigned⟩
    have hname : ∀ y, e = .name y → y ≠ x → b.state y ≠ .module := fun y hy hne hmodule =>
      hassigned (.inr ⟨y, hy, hne, hmodule⟩)
    rcases hdeclared with hnew | ⟨t, ht, hnew, hmatch⟩ | ⟨y, rfl, hmodule⟩
    · exact absurd (.inl hnew) hassigned
    · exact ⟨hnew, hname, .inl ⟨t, ht, hmatch⟩⟩
    · have hyx : y = x := Decidable.byContradiction fun hne => hname y rfl hne hmodule
      subst hyx
      exact ⟨nofun, hname, .inr ⟨rfl, hmodule⟩⟩

instance : Decidable (Lost m b x declaredType e) := decidable_of_iff _ lost_iff.symm

/-- Unless the module is lost, the declaration and the assignment make the same of the name. -/
theorem declaredBinding_of_not_lost (h : ¬ Lost m b x declaredType e) :
    declaredBinding m b declaredType (some e) = .ofModule (isModuleValue m (b.set x .unbound) e) := by
  cases hvalue : isModuleValue m (b.set x .unbound) e with
  | true => exact declaredBinding_of_isModuleValue hvalue
  | false =>
    have hmodule : declaredBinding m b declaredType (some e) ≠ .module := fun hmodule =>
      h (lost_iff.2 ⟨hmodule, hvalue⟩)
    have hunbound : declaredBinding m b declaredType (some e) ≠ .unbound := by cases e <;> simp [declaredBinding]
    cases hdeclared : declaredBinding m b declaredType (some e) with
    | unbound => exact absurd hdeclared hunbound
    | module => exact absurd hdeclared hmodule
    | other => rfl

/-- A declaration in two statements gains no name of the module. -/
theorem modulesWithin_split :
    ModulesWithin (bindStmt m (bindStmt m b (.localDecl x declaredType none)) (.assign (.name x) e))
      (bindStmt m b (.localDecl x declaredType (some e))) := by
  intro y
  rw [bindStmt_split, bindStmt, Bindings.state_set, Bindings.state_set]
  split
  · rw [Binding.ofModule_eq_module]
    exact declaredBinding_of_isModuleValue
  · exact id

/-! ## Whole runs -/

/-- With fewer names of the module at the start, a run emits no more. -/
theorem ModulesWithin.emitted_subset (h : ModulesWithin b' b) (ss : List Stmt) :
    emitted propertyName m b' ss ⊆ emitted propertyName m b ss := by
  induction ss generalizing b b' with
  | nil => exact List.Subset.refl _
  | cons s ss ih =>
    have hstep := h.step (m := m) s
    intro p hp
    rw [emitted_cons, List.mem_append, Option.mem_toList] at hp ⊢
    exact hp.imp hstep.stmtProperty_eq_some fun hrest => ih hstep hrest

/-! ## Places -/

/-- A body with a gap in it, between its statements or inside one of its blocks. -/
inductive BodyGap where
  | here (before after : List Stmt)
  | inside (before : List Stmt) (inner : BodyGap) (after : List Stmt)

namespace BodyGap

/-- The body with statements in the gap. -/
def fill (ss : List Stmt) : BodyGap → List Stmt
  | here before after => before ++ ss ++ after
  | inside before inner after => before ++ .block (inner.fill ss) :: after

/-- The flat statements before the gap. -/
def before : BodyGap → List Stmt
  | here before _ => flatten before
  | inside before inner _ => flatten before ++ inner.before

/-- The flat statements after the gap. -/
def after : BodyGap → List Stmt
  | here _ after => flatten after
  | inside _ inner after => inner.after ++ flatten after

theorem flatten_fill (ss : List Stmt) (gap : BodyGap) :
    flatten (gap.fill ss) = gap.before ++ flatten ss ++ gap.after := by
  induction gap with
  | here before after => rw [fill, flatten_append, flatten_append, BodyGap.before, BodyGap.after]
  | inside before inner after ih =>
    rw [fill, flatten_append, flatten_block_cons, ih, BodyGap.before, BodyGap.after]
    simp only [List.append_assoc]

/-- The bindings right before the gap. -/
def bindings (m : ModuleId) (gap : BodyGap) : Bindings := gap.before.foldl (bindStmt m) .empty

end BodyGap

theorem getElem?_track_append (before after : List Stmt) (s : Stmt) :
    (track m (before ++ s :: after))[before.length]? = some (bindStmt m (before.foldl (bindStmt m) .empty) s) := by
  have htake : (before ++ s :: after).take (before.length + 1) = before ++ [s] := by
    rw [List.take_length_add_append]
    rfl
  rw [getElem?_track (by simp), bindingsBefore, htake, List.foldl_append]
  rfl

/-- What a body emits with statements in its gap. -/
theorem emitted_fill (gap : BodyGap) (ss : List Stmt) :
    emitted propertyName m .empty (flatten (gap.fill ss)) =
      emitted propertyName m .empty gap.before ++ (emitted propertyName m (gap.bindings m) (flatten ss) ++
        emitted propertyName m ((flatten ss).foldl (bindStmt m) (gap.bindings m)) gap.after) := by
  rw [gap.flatten_fill, List.append_assoc, emitted_append, emitted_append]
  rfl

/-- A declaration with its value in one statement. -/
def wholeDeclaration (x : String) (declaredType : Option String) (e : Expr) : List Stmt :=
  [.localDecl x declaredType (some e)]

/-- The declaration without the value, and an assignment. -/
def partedDeclaration (x : String) (declaredType : Option String) (e : Expr) : List Stmt :=
  [.localDecl x declaredType none, .assign (.name x) e]

/-- Neither way to declare a name sets a property by itself. -/
theorem emitted_fill_whole (gap : BodyGap) :
    emitted propertyName m .empty (flatten (gap.fill (wholeDeclaration x declaredType e))) =
      emitted propertyName m .empty gap.before ++
        emitted propertyName m (bindStmt m (gap.bindings m) (.localDecl x declaredType (some e))) gap.after :=
  emitted_fill gap _

theorem emitted_fill_parted (gap : BodyGap) :
    emitted propertyName m .empty (flatten (gap.fill (partedDeclaration x declaredType e))) =
      emitted propertyName m .empty gap.before ++
        emitted propertyName m
          (bindStmt m (bindStmt m (gap.bindings m) (.localDecl x declaredType none)) (.assign (.name x) e)) gap.after :=
  emitted_fill gap _

theorem getElem?_track_whole (gap : BodyGap) :
    (track m (flatten (gap.fill (wholeDeclaration x declaredType e))))[gap.before.length]? =
      some (bindStmt m (gap.bindings m) (.localDecl x declaredType (some e))) := by
  rw [gap.flatten_fill, List.append_assoc]
  exact getElem?_track_append gap.before gap.after _

theorem getElem?_track_parted (gap : BodyGap) :
    (track m (flatten (gap.fill (partedDeclaration x declaredType e))))[gap.before.length + 1]? =
      some (bindStmt m (bindStmt m (gap.bindings m) (.localDecl x declaredType none)) (.assign (.name x) e)) := by
  have htrack := getElem?_track_append (m := m) (gap.before ++ [.localDecl x declaredType none]) gap.after
    (.assign (.name x) e)
  rw [List.foldl_append, List.length_append] at htrack
  rw [gap.flatten_fill, List.append_assoc]
  rw [List.append_assoc] at htrack
  exact htrack

/-- **A declaration in two statements.** Let the declaration of `x` with the value `e` stand anywhere in a test case,
and take in its place the declaration without the value and an assignment. The test case then sets no further property.
Unless the module is lost, the bindings right after the two statements are those after the one, and so are the
properties. If it is lost, the one statement makes `x` the module and the two make it something else, and all other
names stand for the same. -/
theorem testCaseProperties_of_split (propertyName : String → Option String) (m : ModuleId) (method : Method)
    (gap : BodyGap) (x : String) (declaredType : Option String) (e : Expr) :
    (∀ p ∈ testCaseProperties propertyName m { method with body := gap.fill (partedDeclaration x declaredType e) },
      p ∈ testCaseProperties propertyName m { method with body := gap.fill (wholeDeclaration x declaredType e) }) ∧
    ∃ b b',
      (track m (flatten (gap.fill (wholeDeclaration x declaredType e))))[gap.before.length]? = some b ∧
      (track m (flatten (gap.fill (partedDeclaration x declaredType e))))[gap.before.length + 1]? = some b' ∧
      (¬ Lost m (gap.bindings m) x declaredType e →
        b' = b ∧
        testCaseProperties propertyName m { method with body := gap.fill (partedDeclaration x declaredType e) } =
          testCaseProperties propertyName m { method with body := gap.fill (wholeDeclaration x declaredType e) }) ∧
      (Lost m (gap.bindings m) x declaredType e →
        b.state x = .module ∧ b'.state x = .other ∧ ∀ y, y ≠ x → b'.state y = b.state y) := by
  refine ⟨fun p hp => ?_, _, _, getElem?_track_whole gap, getElem?_track_parted gap, fun hkept => ?_, fun hlost => ?_⟩
  · rw [testCaseProperties_eq_emitted, SortedSet.mem_ofList] at hp ⊢
    rw [emitted_fill_parted, List.mem_append] at hp
    rw [emitted_fill_whole, List.mem_append]
    exact hp.imp_right fun hafter => modulesWithin_split.emitted_subset gap.after hafter
  · have hsame : bindStmt m (bindStmt m (gap.bindings m) (.localDecl x declaredType none)) (.assign (.name x) e) =
        bindStmt m (gap.bindings m) (.localDecl x declaredType (some e)) := by
      rw [bindStmt_split, bindStmt, declaredBinding_of_not_lost hkept]
    refine ⟨hsame, ?_⟩
    rw [testCaseProperties_eq_emitted, testCaseProperties_eq_emitted, emitted_fill_parted, emitted_fill_whole, hsame]
  · obtain ⟨hmodule, hother⟩ := lost_iff.1 hlost
    rw [bindStmt_split, hother, bindStmt, hmodule]
    refine ⟨?_, ?_, fun y hy => ?_⟩
    · rw [Bindings.state_set, if_pos rfl]
    · rw [Bindings.state_set, if_pos rfl]
      rfl
    · rw [Bindings.state_set, Bindings.state_set, if_neg hy, if_neg hy]

/-- A test case with an instance `a` and a place in a block, after which `c` is configured inside the block and out of
it. -/
def blockGap : BodyGap :=
  .inside [.localDecl "a" none (some (.new "FooCheck" []))]
    (.here [] [.expr (.call (some (.name "c")) "setMax" [.literal .number "1"])])
    [.assign (.field (.name "c") "min") (.literal .number "2")]

/-- In two statements `FooCheck c = a` still sets `max` and `min`. But `FooCheck c = make()` loses the module, which is
known only by the type. -/
theorem testCaseProperties_of_split_blockGap :
    ((⟨"max", "1"⟩ : Property) ∈ testCaseProperties (setterProperty "set") ⟨"FooCheck"⟩
        ⟨"test", [], blockGap.fill (partedDeclaration "c" (some "FooCheck") (.name "a")), 1⟩ ∧
      (⟨"max", "1"⟩ : Property) ∈ testCaseProperties (setterProperty "set") ⟨"FooCheck"⟩
        ⟨"test", [], blockGap.fill (wholeDeclaration "c" (some "FooCheck") (.name "a")), 1⟩) ∧
    (¬ Lost ⟨"FooCheck"⟩ (blockGap.bindings ⟨"FooCheck"⟩) "c" (some "FooCheck") (.name "a") ∧
      testCaseProperties (setterProperty "set") ⟨"FooCheck"⟩
          ⟨"test", [], blockGap.fill (partedDeclaration "c" (some "FooCheck") (.name "a")), 1⟩ =
        testCaseProperties (setterProperty "set") ⟨"FooCheck"⟩
          ⟨"test", [], blockGap.fill (wholeDeclaration "c" (some "FooCheck") (.name "a")), 1⟩) ∧
    Lost ⟨"FooCheck"⟩ (blockGap.bindings ⟨"FooCheck"⟩) "c" (some "FooCheck") (.call none "make" []) ∧
      ∃ b b', b.state "c" = .module ∧ b'.state "c" = .other ∧ b.state "a" = .module ∧ b'.state "a" = b.state "a" ∧
        (track ⟨"FooCheck"⟩ (flatten (blockGap.fill
          (wholeDeclaration "c" (some "FooCheck") (.call none "make" [])))))[1]? = some b ∧
        (track ⟨"FooCheck"⟩ (flatten (blockGap.fill
          (partedDeclaration "c" (some "FooCheck") (.call none "make" [])))))[2]? = some b' := by
  have hsplit := testCaseProperties_of_split (setterProperty "set") ⟨"FooCheck"⟩ ⟨"test", [], [], 1⟩ blockGap "c"
    (some "FooCheck")
  have hkept : ¬ Lost ⟨"FooCheck"⟩ (blockGap.bindings ⟨"FooCheck"⟩) "c" (some "FooCheck") (.name "a") := by decide
  have hlost : Lost ⟨"FooCheck"⟩ (blockGap.bindings ⟨"FooCheck"⟩) "c" (some "FooCheck") (.call none "make" []) := by
    decide
  obtain ⟨hsubset, _, _, -, -, hsame, -⟩ := hsplit (.name "a")
  obtain ⟨-, b, b', hb, hb', -, hstates⟩ := hsplit (.call none "make" [])
  obtain ⟨hmodule, hother, hothers⟩ := hstates hlost
  refine ⟨⟨by decide, hsubset _ (by decide)⟩, ⟨hkept, (hsame hkept).2⟩, hlost, b, b', hmodule, hother, ?_,
    hothers "a" (by decide), hb, hb'⟩
  cases hb
  decide

end ConfigCoverage
