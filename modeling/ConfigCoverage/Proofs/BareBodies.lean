import ConfigCoverage.Proofs.Walk
import ConfigCoverage.TestCase

/-!
# The statements of a body that count

Only the flat statements of a body matter to an analysis, and of these not the ones that have no bearing on the
configuration of an object.

* `bare`: the flat statements of a body that count.
* `testCaseProperties_eq_of_bare`, `processFile_eq_of_bare`: bodies with the same statements that count are analysed
  alike.
-/

namespace ConfigCoverage

/-! ## Statements that count -/

/-- Is a statement without a bearing on the configuration of an object? -/
def Stmt.isOther : Stmt → Bool
  | .other => true
  | _ => false

/-- The flat statements of a body that count. -/
def bare (ss : List Stmt) : List Stmt := (flatten ss).filter fun s => !s.isOther

theorem bare_block (body : List Stmt) : bare [.block body] = bare body := by
  rw [bare, flatten_block_cons, flatten, List.append_nil, bare]

theorem bare_append (ss ts : List Stmt) : bare (ss ++ ts) = bare ss ++ bare ts := by
  rw [bare, flatten_append, List.filter_append, bare, bare]

theorem bare_of_not_isBlock {ss : List Stmt} (h : ∀ s ∈ ss, s.isBlock = false) :
    bare ss = ss.filter fun s => !s.isOther := by
  have hflat : flatten ss = ss := by
    induction ss with
    | nil => rfl
    | cons s ss ih =>
      obtain ⟨hs, hss⟩ := List.forall_mem_cons.1 h
      rw [flatten_leaf_cons hs, ih hss]
  rw [bare, hflat]

/-- The others bind nothing and set nothing. -/
theorem emitted_filter_isOther {propertyName : String → Option String} {m : ModuleId} (b : Bindings)
    (ss : List Stmt) :
    emitted propertyName m b (ss.filter fun s => !s.isOther) = emitted propertyName m b ss := by
  induction ss generalizing b with
  | nil => rfl
  | cons s ss ih =>
    cases s with
    | other => exact ih b
    | localDecl | assign | expr | block => rw [List.filter_cons_of_pos rfl, emitted_cons, emitted_cons, ih]

theorem testCaseProperties_eq_of_bare {propertyName : String → Option String} {m : ModuleId} {a b : Method}
    (h : bare a.body = bare b.body) : testCaseProperties propertyName m a = testCaseProperties propertyName m b := by
  rw [testCaseProperties_eq_emitted, testCaseProperties_eq_emitted, ← emitted_filter_isOther,
    ← emitted_filter_isOther Bindings.empty (flatten b.body)]
  exact congrArg (fun ss => SortedSet.ofList (emitted propertyName m .empty ss)) h

section Methods

variable {before after : List Method}

theorem collectResults_eq_of_bare {rules : Rules} {m : ModuleId} {a b : Method}
    (htest : rules.isTestCase a = rules.isTestCase b) (hname : a.name = b.name) (h : bare a.body = bare b.body) :
    collectResults rules m (before ++ a :: after) = collectResults rules m (before ++ b :: after) := by
  have hproperties : testCaseProperties rules.propertyName m a = testCaseProperties rules.propertyName m b :=
    testCaseProperties_eq_of_bare h
  unfold collectResults
  rw [List.filter_append, List.filter_append, List.filter_cons, List.filter_cons, htest, List.foldl_append,
    List.foldl_append]
  split
  · rw [List.foldl_cons, List.foldl_cons, hname, hproperties]
  · rfl

/-- A method may give way to one with the same name, markers and line whose body has the same statements that count. -/
theorem processFile_eq_of_bare {rule : TestCaseRule} {propertyName : String → Option String} {m : Option ModuleId}
    {file name : String} {markers : List String} {line : Nat} {body body' : List Stmt} (h : bare body = bare body') :
    processFile ⟨rule.accepts, propertyName⟩ m ⟨file, before ++ ⟨name, markers, body, line⟩ :: after⟩ =
      processFile ⟨rule.accepts, propertyName⟩ m ⟨file, before ++ ⟨name, markers, body', line⟩ :: after⟩ := by
  cases m with
  | none => rfl
  | some m =>
    have hresults : collectResults ⟨rule.accepts, propertyName⟩ m (before ++ ⟨name, markers, body, line⟩ :: after) =
        collectResults ⟨rule.accepts, propertyName⟩ m (before ++ ⟨name, markers, body', line⟩ :: after) :=
      collectResults_eq_of_bare rfl rfl h
    unfold processFile namelessMethod?
    simp only [List.find?_append, List.find?_cons, hresults]
    cases before.find? fun method => trimmed method.name == "" with
    | some method => rfl
    | none => cases trimmed name == "" <;> rfl

end Methods

end ConfigCoverage
