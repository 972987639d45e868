import ConfigCoverage.Proofs.BareBodies
import ConfigCoverage.Python.Lowering

/-!
# The statements of a Python body

A body is lowered to the statements in it that count, whatever stands around them: branches, loops, contexts and
handlers. Two compound statements are not opened, the `try` whose handlers take groups of exceptions and the `match`, and
what stands in them is lost.

* `settings`: the statements that own no others, by one walk through all compound statements, with those marked as
  hidden that stand in one that is not opened.
* `bare_lowerSuite`: the settings that are not hidden are kept, once each and in their order.
* `lowering_keeps_settings`: all settings are kept iff those that are hidden do not count.
-/

namespace ConfigCoverage.Python

/-! ## Settings -/

/-- A statement that owns no others, or a name that a context is bound to. -/
inductive Setting where
  /-- An assignment, to one target of a chain. -/
  | assignment (target value : Term)
  | annotated (target type : Term) (value : Option Term)
  | expression (value : Term)
  | context (value : Term) (name : String)

/-- The statement that a setting is lowered to. -/
def Setting.lower : Setting → Stmt
  | .assignment target value => lowerTarget (lowerTerm value) target
  | .annotated target type value => lowerAnnotated target type value
  | .expression value => .expr (lowerTerm value)
  | .context value name => .assign (.name name) (lowerTerm value)

/-- A setting in a body. -/
structure Placed where
  setting : Setting
  /-- Does it stand in a compound statement that is not opened? -/
  hidden : Bool

/-- A setting where nothing hides it. -/
def Setting.placed (s : Setting) : Placed := ⟨s, false⟩

def Placed.hide (p : Placed) : Placed := { p with hidden := true }

/-- A context that is bound to a name. -/
def boundContext? : Term × Option Term → Option Setting
  | (value, some (.name id)) => some (.context value id)
  | _ => none

mutual

/-- The settings of a statement, from the first to the last, through all compound statements. Functions and classes
are bodies of their own. -/
def settings : Statement → List Placed
  | .assign targets value => (targets.map fun target => Setting.assignment target value).map Setting.placed
  | .annotated target type value => [(Setting.annotated target type value).placed]
  | .expression value => [(Setting.expression value).placed]
  | .ifElse body orelse => settingsAll body ++ settingsAll orelse
  | .forLoop body orelse => settingsAll body ++ settingsAll orelse
  | .whileLoop body orelse => settingsAll body ++ settingsAll orelse
  | .withBlock items body => (items.filterMap boundContext?).map Setting.placed ++ settingsAll body
  | .tryBlock body handlers orelse final =>
    settingsAll body ++ settingsOfSuites handlers ++ settingsAll orelse ++ settingsAll final
  | .tryGroup body handlers orelse final =>
    (settingsAll body ++ settingsOfSuites handlers ++ settingsAll orelse ++ settingsAll final).map Placed.hide
  | .matchBlock cases => (settingsOfSuites cases).map Placed.hide
  | .function _ _ _ _ => []
  | .classDef _ => []
  | .other => []

/-- The settings of a suite. -/
def settingsAll : List Statement → List Placed
  | [] => []
  | s :: ss => settings s ++ settingsAll ss

/-- The settings of suites, one after the other. -/
def settingsOfSuites : List (List Statement) → List Placed
  | [] => []
  | suite :: suites => settingsAll suite ++ settingsOfSuites suites

end

/-- The statements of settings that count. -/
def lowered (ps : List Placed) : List Stmt := (ps.map fun p => p.setting.lower).filter fun s => !s.isOther

/-- The settings that are not hidden. -/
def visible (ps : List Placed) : List Placed := ps.filter fun p => !p.hidden

theorem lowered_append (ps qs : List Placed) : lowered (ps ++ qs) = lowered ps ++ lowered qs := by
  rw [lowered, List.map_append, List.filter_append, lowered, lowered]

theorem visible_append (ps qs : List Placed) : visible (ps ++ qs) = visible ps ++ visible qs := List.filter_append ..

theorem visible_map_hide (ps : List Placed) : visible (ps.map Placed.hide) = [] := by
  simp [visible, Placed.hide]

/-! ## Single settings -/

theorem isBlock_lower (s : Setting) : s.lower.isBlock = false := by
  cases s with
  | assignment target value => cases target <;> rfl
  | annotated target type value => cases target <;> cases value <;> rfl
  | expression | context => rfl

/-- Settings in a row are kept as they are. -/
theorem bare_map_lower (ss : List Setting) : bare (ss.map Setting.lower) = lowered (visible (ss.map Setting.placed)) := by
  have hvisible : visible (ss.map Setting.placed) = ss.map Setting.placed :=
    List.filter_eq_self.2 fun p hp => by
      obtain ⟨s, -, rfl⟩ := List.mem_map.1 hp
      rfl
  have hblocks : ∀ t ∈ ss.map Setting.lower, t.isBlock = false := fun t ht => by
    obtain ⟨s, -, rfl⟩ := List.mem_map.1 ht
    exact isBlock_lower s
  rw [hvisible, lowered, List.map_map]
  exact bare_of_not_isBlock hblocks

theorem filterMap_lowerItem? (items : List (Term × Option Term)) :
    items.filterMap lowerItem? = (items.filterMap boundContext?).map Setting.lower := by
  rw [List.map_filterMap]
  refine congrArg (fun f => items.filterMap f) (funext fun item => ?_)
  obtain ⟨value, target⟩ := item
  cases target with
  | none => rfl
  | some target => cases target <;> rfl

/-! ## Bodies -/

mutual

/-- What a statement is lowered to are the settings in it that are not hidden. A compound statement is opened by a block,
and the flat statements are those inside. -/
theorem bare_lowerStatement (s : Statement) : bare (lowerStatement s) = lowered (visible (settings s)) := by
  cases s with
  | assign targets value =>
    have hlower : targets.map (lowerTarget (lowerTerm value)) =
        (targets.map fun target => Setting.assignment target value).map Setting.lower := by
      rw [List.map_map]
      rfl
    rw [lowerStatement, hlower, settings, bare_map_lower]
  | annotated target type value => exact bare_map_lower [.annotated target type value]
  | expression value => exact bare_map_lower [.expression value]
  | ifElse body orelse | forLoop body orelse | whileLoop body orelse =>
    rw [lowerStatement, settings, bare_block, bare_append, bare_lowerSuite body, bare_lowerSuite orelse, visible_append,
      lowered_append]
  | withBlock items body =>
    rw [lowerStatement, settings, bare_block, bare_append, filterMap_lowerItem?, bare_map_lower, bare_lowerSuite body,
      visible_append, lowered_append]
  | tryBlock body handlers orelse final =>
    simp only [lowerStatement, settings, bare_block, bare_append, visible_append, lowered_append, bare_lowerSuite body,
      bare_lowerSuites handlers, bare_lowerSuite orelse, bare_lowerSuite final]
  | tryGroup | matchBlock =>
    -- not opened: one statement that does not count, where all settings are hidden
    rw [settings, visible_map_hide]
    rfl
  | function | classDef | other => rfl

theorem bare_lowerSuite (ss : List Statement) : bare (lowerSuite ss) = lowered (visible (settingsAll ss)) := by
  cases ss with
  | nil => rfl
  | cons s ss =>
    rw [lowerSuite, settingsAll, bare_append, bare_lowerStatement s, bare_lowerSuite ss, visible_append, lowered_append]

theorem bare_lowerSuites (suites : List (List Statement)) :
    bare (lowerSuites suites) = lowered (visible (settingsOfSuites suites)) := by
  cases suites with
  | nil => rfl
  | cons suite suites =>
    rw [lowerSuites, settingsOfSuites, bare_append, bare_lowerSuite suite, bare_lowerSuites suites, visible_append,
      lowered_append]

end

/-! ## What is hidden -/

/-- The statements of all settings are those of the visible ones iff no hidden one counts. -/
theorem lowered_visible_eq_iff (ps : List Placed) :
    lowered (visible ps) = lowered ps ↔ ∀ p ∈ ps, p.hidden = true → p.setting.lower.isOther = true := by
  have hlowered : ∀ qs : List Placed,
      lowered qs = (qs.filter fun p => !p.setting.lower.isOther).map fun p => p.setting.lower :=
    fun qs => List.filter_map
  have hvisible : (visible ps).filter (fun p => !p.setting.lower.isOther) =
      (ps.filter fun p => !p.setting.lower.isOther).filter fun p => !p.hidden := by
    rw [visible, List.filter_filter, List.filter_filter]
    simp only [Bool.and_comm]
  rw [hlowered, hlowered, hvisible]
  constructor
  · intro h p hp hhidden
    have hlength := congrArg List.length h
    rw [List.length_map, List.length_map, List.length_filter_eq_length_iff] at hlength
    cases hother : p.setting.lower.isOther with
    | true => rfl
    | false =>
      have hshown := hlength p (List.mem_filter.2 ⟨hp, by rw [hother]; rfl⟩)
      rw [hhidden] at hshown
      cases hshown
  · intro h
    refine congrArg _ (List.filter_eq_self.2 fun p hp => ?_)
    obtain ⟨hp, hcounts⟩ := List.mem_filter.1 hp
    cases hhidden : p.hidden with
    | false => rfl
    | true =>
      rw [h p hp hhidden] at hcounts
      cases hcounts

theorem bare_lowered (ps : List Placed) : bare (lowered ps) = lowered ps := by
  have hblocks : ∀ t ∈ lowered ps, t.isBlock = false := fun t ht => by
    obtain ⟨ht, -⟩ := List.mem_filter.1 ht
    obtain ⟨p, -, rfl⟩ := List.mem_map.1 ht
    exact isBlock_lower p.setting
  rw [bare_of_not_isBlock hblocks, lowered, List.filter_filter]
  simp only [Bool.and_self]

/-- **A body keeps its settings.** The statements of a body that count are its settings that are not hidden, each lowered
by itself, once and in its place, so that the test case sets what these set one after the other. They are all its
settings iff those that stand in a `match`, or in a `try` whose handlers take groups, do not count. -/
theorem lowering_keeps_settings (body : List Statement) :
    bare (lowerSuite body) = lowered (visible (settingsAll body)) ∧
      (∀ (propertyName : String → Option String) (m : ModuleId) (name : String) (markers : List String) (line : Nat),
        testCaseProperties propertyName m ⟨name, markers, lowerSuite body, line⟩ =
          testCaseProperties propertyName m ⟨name, markers, lowered (visible (settingsAll body)), line⟩) ∧
      (bare (lowerSuite body) = lowered (settingsAll body) ↔
        ∀ p ∈ settingsAll body, p.hidden = true → p.setting.lower.isOther = true) := by
  have hbody := bare_lowerSuite body
  refine ⟨hbody, fun propertyName m name markers line => ?_, ?_⟩
  · exact testCaseProperties_eq_of_bare (hbody.trans (bare_lowered _).symm)
  · rw [hbody, lowered_visible_eq_iff]

/-! ## A setting in a case -/

/-- `c = FooCheck()` -/
def checkConstruction : Statement := .assign [.name "c"] (.call "FooCheck()" (.name "FooCheck") [] [])

/-- `c.set_max(1)` -/
def maxCall : Statement := .expression (.call "c.set_max(1)" (.member "c.set_max" (.name "c") "set_max") [.number "1"] [])

/-- A test function that makes an instance and then runs a statement. -/
def testFunction (s : Statement) : SourceFile := lowerModule "test_x.py" [.function [] "test_x" [checkConstruction, s] 0]

/-- What the test function sets. -/
def testFunctionSets (s : Statement) : Option (List Property) :=
  ((processStandard (testFunction s) "FooCheck").toOption.bind fun r => r.get? "test_x").map SortedSet.toList

/-- A setting in a branch counts. In a case it is lost, and so it is in a `try` whose handlers take groups. -/
theorem lowering_loses_cases :
    lowered (settingsAll [.ifElse [] [maxCall]]) = [.expr (.call (some (.name "c")) "set_max" [.literal .number "1"])] ∧
      lowered (settingsAll [.matchBlock [[maxCall]]]) = lowered (settingsAll [.ifElse [] [maxCall]]) ∧
      lowered (settingsAll [.tryGroup [maxCall] [[.other]] [] []]) = lowered (settingsAll [.ifElse [] [maxCall]]) ∧
      bare (lowerSuite [.ifElse [] [maxCall]]) = lowered (settingsAll [.ifElse [] [maxCall]]) ∧
      bare (lowerSuite [.matchBlock [[maxCall]]]) = [] ∧
      bare (lowerSuite [.tryGroup [maxCall] [[.other]] [] []]) = [] ∧
      testFunctionSets (.ifElse [] [maxCall]) = some [⟨"max", "1"⟩] ∧
      testFunctionSets (.matchBlock [[maxCall]]) = some [] ∧
      testFunctionSets (.tryGroup [maxCall] [[.other]] [] []) = some [] := by
  refine ⟨rfl, rfl, rfl, rfl, rfl, rfl, ?_, ?_, ?_⟩ <;> decide +kernel

end ConfigCoverage.Python
