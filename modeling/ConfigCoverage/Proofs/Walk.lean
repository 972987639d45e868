import ConfigCoverage.Analysis

/-!
# One walk over a nested body

The analysis of a test case takes three passes: the blocks are opened, all snapshots of the bindings are made, and then
each statement is looked at under its snapshot. One walk over the nested body does the same: it carries the bindings
along, into blocks and out of them, and at each other statement first binds and then emits.

* `walk_eq`: the walk ends with the bindings of the flat body and emits what the flat body emits.
* `Visits.mem_walk`, `exists_visits_of_mem_walk`: what is emitted, by the statements that the walk comes to (`Visits`).
* `exists_visits_iff_inside`: the walk comes to every statement of the body, at any depth.
* `testCaseProperties_eq_walk`: the analysis of a test case is the walk.
-/

namespace ConfigCoverage

variable (propertyName : String → Option String) (m : ModuleId)

mutual

/-- Walk over a statement with the bindings `b`: the bindings after it, and the properties that it emits. -/
def walkStmt (b : Bindings) : Stmt → Bindings × List Property
  | .block body => walk b body
  | s => (bindStmt m b s, (stmtProperty propertyName (bindStmt m b s) s).toList)

/-- Walk over the statements of a body, each with the bindings that the one before it leaves. -/
def walk (b : Bindings) : List Stmt → Bindings × List Property
  | [] => (b, [])
  | s :: ss =>
    let here := walkStmt b s
    let rest := walk here.1 ss
    (rest.1, here.2 ++ rest.2)

end

/-- Walking over a body with the bindings `b` comes to the statement `s`, which is no block, and leaves it with the
bindings `b'`. -/
inductive Visits : Bindings → List Stmt → Stmt → Bindings → Prop
  | here {b : Bindings} {s : Stmt} {ss : List Stmt} : s.isBlock = false → Visits b (s :: ss) s (bindStmt m b s)
  | inside {b b' : Bindings} {s : Stmt} {inner ss : List Stmt} :
    Visits b inner s b' → Visits b (.block inner :: ss) s b'
  | later {b b' : Bindings} {s t : Stmt} {ss : List Stmt} :
    Visits (walkStmt propertyName m b t).1 ss s b' → Visits b (t :: ss) s b'

/-- The statement `s`, which is no block, stands in a body, at any depth. -/
inductive Inside (s : Stmt) : List Stmt → Prop
  | here {ss : List Stmt} : s.isBlock = false → Inside s (s :: ss)
  | inside {inner ss : List Stmt} : Inside s inner → Inside s (.block inner :: ss)
  | later {t : Stmt} {ss : List Stmt} : Inside s ss → Inside s (t :: ss)

/-! ## The flat body -/

/-- What flat statements emit, each under its snapshot. -/
def emitted (b : Bindings) (ss : List Stmt) : List Property :=
  (ss.zip (trackFrom m b ss)).filterMap fun (s, b) => stmtProperty propertyName b s

/-- The properties of a test case are what its flat body emits, starting without bindings. -/
theorem testCaseProperties_eq_emitted (method : Method) :
    testCaseProperties propertyName m method = .ofList (emitted propertyName m .empty (flatten method.body)) := rfl

variable {propertyName m}

theorem emitted_cons (b : Bindings) (s : Stmt) (ss : List Stmt) :
    emitted propertyName m b (s :: ss) =
      (stmtProperty propertyName (bindStmt m b s) s).toList ++ emitted propertyName m (bindStmt m b s) ss := by
  simp only [emitted, trackFrom, List.zip_cons_cons, List.filterMap_cons]
  cases stmtProperty propertyName (bindStmt m b s) s <;> rfl

/-- The snapshots of a second part start from the bindings that the first part leaves. -/
theorem emitted_append (b : Bindings) (ss ts : List Stmt) :
    emitted propertyName m b (ss ++ ts) =
      emitted propertyName m b ss ++ emitted propertyName m (ss.foldl (bindStmt m) b) ts := by
  induction ss generalizing b with
  | nil => rfl
  | cons s ss ih =>
    rw [List.cons_append, emitted_cons, emitted_cons, ih, List.append_assoc]
    rfl

/-- A statement that is no block binds and then emits. -/
theorem walkStmt_leaf (b : Bindings) {s : Stmt} (hs : s.isBlock = false) :
    walkStmt propertyName m b s = (bindStmt m b s, (stmtProperty propertyName (bindStmt m b s) s).toList) := by
  cases s with
  | block => cases hs
  | localDecl | assign | expr | other => rfl

/-- The walk leaves the bindings of the flat body and emits what the flat body emits. -/
theorem walk_eq (b : Bindings) (ss : List Stmt) :
    walk propertyName m b ss = ((flatten ss).foldl (bindStmt m) b, emitted propertyName m b (flatten ss)) := by
  induction ss using body_induction generalizing b with
  | nil => rfl
  | block inner ss ih₁ ih₂ =>
    rw [walk, walkStmt, ih₁, ih₂, flatten_block_cons, List.foldl_append, emitted_append]
  | leaf s ss hs ih =>
    rw [walk, walkStmt_leaf b hs, ih, flatten_leaf_cons hs, List.foldl_cons, emitted_cons]

/-! ## The statements of a walk -/

theorem mem_walk_cons {b : Bindings} {s : Stmt} {ss : List Stmt} {p : Property} :
    p ∈ (walk propertyName m b (s :: ss)).2 ↔
      p ∈ (walkStmt propertyName m b s).2 ∨ p ∈ (walk propertyName m (walkStmt propertyName m b s).1 ss).2 := by
  rw [walk]; exact List.mem_append

/-- What a statement emits when the walk comes to it is emitted by the walk. -/
theorem Visits.mem_walk {b b' : Bindings} {ss : List Stmt} {s : Stmt} {p : Property}
    (h : Visits propertyName m b ss s b') (hp : stmtProperty propertyName b' s = some p) :
    p ∈ (walk propertyName m b ss).2 := by
  induction h with
  | here hs =>
    rw [mem_walk_cons, walkStmt_leaf _ hs, hp]
    exact .inl (List.mem_singleton.2 rfl)
  | inside _ ih =>
    rw [mem_walk_cons, walkStmt]
    exact .inl (ih hp)
  | later _ ih =>
    rw [mem_walk_cons]
    exact .inr (ih hp)

/-- What the walk emits is emitted by a statement that it comes to. -/
theorem exists_visits_of_mem_walk {b : Bindings} {ss : List Stmt} {p : Property}
    (h : p ∈ (walk propertyName m b ss).2) :
    ∃ s b', Visits propertyName m b ss s b' ∧ stmtProperty propertyName b' s = some p := by
  induction ss using body_induction generalizing b with
  | nil => exact absurd h List.not_mem_nil
  | block inner ss ih₁ ih₂ =>
    rcases mem_walk_cons.1 h with h | h
    · rw [walkStmt] at h
      obtain ⟨s, b', hv, hp⟩ := ih₁ h
      exact ⟨s, b', .inside hv, hp⟩
    · obtain ⟨s, b', hv, hp⟩ := ih₂ h
      exact ⟨s, b', .later hv, hp⟩
  | leaf s ss hs ih =>
    rcases mem_walk_cons.1 h with h | h
    · rw [walkStmt_leaf b hs] at h
      exact ⟨s, bindStmt m b s, .here hs, Option.mem_toList.1 h⟩
    · obtain ⟨s, b', hv, hp⟩ := ih h
      exact ⟨s, b', .later hv, hp⟩

/-- The walk comes to every statement that stands in the body, and to no other. -/
theorem exists_visits_iff_inside {b : Bindings} {ss : List Stmt} {s : Stmt} :
    (∃ b', Visits propertyName m b ss s b') ↔ Inside s ss := by
  constructor
  · rintro ⟨b', h⟩
    induction h with
    | here hs => exact .here hs
    | inside _ ih => exact .inside ih
    | later _ ih => exact .later ih
  · intro h
    induction h generalizing b with
    | here hs => exact ⟨_, .here hs⟩
    | inside _ ih => exact ih.imp fun _ => .inside
    | later _ ih => exact ih.imp fun _ => .later

/-- **One walk suffices.** The properties of a test case are those that one walk over its nested body emits, starting
without bindings: the walk comes to every statement at any depth and to nothing else, and a property is found iff some
statement emits it under the bindings with which the walk leaves that statement. -/
theorem testCaseProperties_eq_walk (propertyName : String → Option String) (m : ModuleId) (method : Method) :
    testCaseProperties propertyName m method = .ofList (walk propertyName m .empty method.body).2 ∧
    (∀ s, (∃ b, Visits propertyName m .empty method.body s b) ↔ Inside s method.body) ∧
    ∀ p, p ∈ testCaseProperties propertyName m method ↔
      ∃ s b, Visits propertyName m .empty method.body s b ∧ stmtProperty propertyName b s = some p := by
  have heq : testCaseProperties propertyName m method = .ofList (walk propertyName m .empty method.body).2 := by
    rw [walk_eq]; rfl
  refine ⟨heq, fun s => exists_visits_iff_inside, fun p => ?_⟩
  rw [heq, SortedSet.mem_ofList]
  exact ⟨exists_visits_of_mem_walk, fun ⟨_, _, hv, hp⟩ => hv.mem_walk hp⟩

end ConfigCoverage
