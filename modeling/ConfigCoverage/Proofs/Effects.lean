import ConfigCoverage.Command.Action

/-!
# What actions do to the world

An action that only reads leaves the world as it finds it. An action that prints and writes has no fault but one about
the document. A command reads first and prints and writes then, so any other fault of it comes before it changed
anything.

* `Action.Prints`, `Action.prints_forM`, `Action.prints_foldlM`: actions that print, in a loop too.
* `Action.Reads`, `Action.Reports`: actions that read, and actions that print and write.
* `Action.Clean`: a fault that is not about the document leaves nothing behind.
* `Action.Reads.bind_clean`, `Action.Clean.bind_reports`: what comes first and what comes last in a clean action.
* `Action.Proceeds`, `Action.proceeds_check_bind`: which runs of an action come to the point where only a fault about
  the document is left.
* `workers_bind_apply`: what comes of work that is given to workers.
-/

namespace ConfigCoverage

/-- Lines with their ends. -/
def unlines (lines : List String) : String := String.join (lines.map (· ++ "\n"))

namespace Action

variable {α β : Type} {x : Action α} {f : α → Action β} {w : World}

/-! ## Steps one after the other -/

theorem bind_apply (x : Action α) (f : α → Action β) (w : World) :
    (x >>= f) w = match x w with
      | (.ok a, w) => f a w
      | (.error fault, w) => (.error fault, w) := rfl

theorem bind_apply_of_ok {a : α} {w' : World} (h : x w = (.ok a, w')) : (x >>= f) w = f a w' := by
  rw [bind_apply, h]

theorem bind_apply_of_error {fault : Fault} {w' : World} (h : x w = (.error fault, w')) :
    (x >>= f) w = (.error fault, w') := by
  rw [bind_apply, h]

instance : LawfulMonad Action :=
  LawfulMonad.mk' Action
    (by
      intro α x
      funext w
      change (match x w with
        | (.ok a, w) => (.ok a, w)
        | (.error fault, w) => (.error fault, w)) = x w
      rcases x w with ⟨_ | _, _⟩ <;> rfl)
    (by
      intro α β a f
      rfl)
    (by
      intro α β γ x f g
      funext w
      rw [bind_apply, bind_apply, bind_apply]
      rcases x w with ⟨_ | _, _⟩ <;> rfl)

@[simp] theorem pure_apply (a : α) (w : World) : (pure a : Action α) w = (.ok a, w) := rfl

theorem bind_pure_fst (x : Action α) (b : β) (w : World) : ((x >>= fun _ => pure b) w).1 = (x w).1.map fun _ => b := by
  rw [bind_apply]
  rcases x w with ⟨_ | _, _⟩ <;> rfl

@[simp] theorem fail_bind (fault : Fault) (f : α → Action β) : fail fault >>= f = fail fault := rfl

@[simp] theorem check_ok (a : α) : check (.ok a) = pure a := rfl

@[simp] theorem check_mapError_ok {ε : Type} (a : α) (g : ε → Fault) :
    check ((Except.ok a : Except ε α).mapError g) = pure a := rfl

@[simp] theorem check_error (fault : Fault) : (check (.error fault) : Action α) = fail fault := rfl

theorem check_bind_apply_eq_ok_iff {e : Except Fault α} {b : β} {w' : World} :
    (check e >>= f) w = (.ok b, w') ↔ ∃ a, e = .ok a ∧ f a w = (.ok b, w') := by
  cases e with
  | error fault => simp [fail]
  | ok a => simp

@[simp] theorem getFiles_bind_apply (f : FileTree → Action β) (w : World) : (getFiles >>= f) w = f w.files w := rfl

@[simp] theorem getHost_bind_apply (f : Host → Action β) (w : World) : (getHost >>= f) w = f w.host w := rfl

@[simp] theorem mapError_eq_ok_iff {ε : Type} {e : Except ε α} {g : ε → Fault} {a : α} :
    e.mapError g = .ok a ↔ e = .ok a := by
  cases e with
  | error cause => constructor <;> intro h <;> cases h
  | ok b =>
    constructor
    · intro h
      rw [Except.ok.inj h]
    · intro h
      rw [Except.ok.inj h]
      rfl

theorem mapError_eq_error_iff {ε : Type} {e : Except ε α} {g : ε → Fault} {fault : Fault} :
    e.mapError g = .error fault ↔ ∃ cause, e = .error cause ∧ g cause = fault := by
  cases e with
  | error cause =>
    constructor
    · intro h
      exact ⟨cause, rfl, Except.error.inj h⟩
    · rintro ⟨_, hcause, rfl⟩
      rw [Except.error.inj hcause]
      rfl
  | ok b =>
    constructor
    · intro h
      cases h
    · rintro ⟨_, h, -⟩
      cases h

/-! ## Printing -/

/-- The action prints a text and ends with a value. -/
def Prints (x : Action α) (a : α) (text : String) : Prop :=
  ∀ w, x w = (.ok a, { w with output := w.output ++ text })

theorem prints_pure (a : α) : (pure a : Action α).Prints a "" := fun w => by rw [String.append_empty]; rfl

theorem prints_print (text : String) : (print text).Prints () text := fun _ => rfl

theorem prints_printLine (line : String) : (printLine line).Prints () (line ++ "\n") := fun _ => rfl

theorem Prints.bind {a : α} {b : β} {text more : String} (hx : x.Prints a text) (hf : (f a).Prints b more) :
    (x >>= f).Prints b (text ++ more) := by
  intro w
  rw [bind_apply_of_ok (hx w), hf, String.append_assoc]

theorem prints_forM {act : α → Action Unit} {text : α → String} (h : ∀ a, (act a).Prints () (text a)) (items : List α) :
    (items.forM act).Prints () (String.join (items.map text)) := by
  induction items with
  | nil => exact prints_pure ()
  | cons a items ih =>
    rw [List.map_cons, String.join_cons]
    exact (h a).bind ih

theorem prints_forM_printLine (lines : List String) : (lines.forM printLine).Prints () (unlines lines) :=
  prints_forM prints_printLine lines

/-- A loop that prints in each round and goes on with the next value. -/
theorem prints_foldlM {act : β → α → Action β} {next : β → α → β} {text : α → String}
    (h : ∀ b a, (act b a).Prints (next b a) (text a)) (items : List α) (b : β) :
    (items.foldlM act b).Prints (items.foldl next b) (String.join (items.map text)) := by
  induction items generalizing b with
  | nil => exact prints_pure b
  | cons a items ih =>
    rw [List.map_cons, String.join_cons, List.foldlM_cons, List.foldl_cons]
    exact (h b a).bind (ih (next b a))

/-! ## Kinds of actions -/

/-- The action changes nothing, and a fault of it is not about the document. -/
structure Reads (x : Action α) : Prop where
  world : ∀ w, (x w).2 = w
  fault : ∀ w fault, (x w).1 = .error fault → fault.isAboutDocument = false

/-- From this world the action has no fault, or one about the document. -/
def Proceeds (x : Action α) (w : World) : Prop := ∀ fault, (x w).1 = .error fault → fault.isAboutDocument = true

/-- The action has no fault but about the document. -/
def Reports (x : Action α) : Prop := ∀ w, x.Proceeds w

/-- A fault that is not about the document leaves the world as it was. -/
def Clean (x : Action α) : Prop :=
  ∀ w fault, (x w).1 = .error fault → fault.isAboutDocument = false → (x w).2 = w

theorem Reports.clean (h : x.Reports) : x.Clean := by
  intro w fault hf hd
  rw [h w fault hf] at hd
  cases hd

/-- An action that reads gives a value or a fault, in the same world. -/
theorem Reads.apply (h : x.Reads) (w : World) : x w = ((x w).1, w) := Prod.ext rfl (h.world w)

theorem Reads.bind (hx : x.Reads) (hf : ∀ a, (f a).Reads) : (x >>= f).Reads := by
  have happly : ∀ w, (x >>= f) w = match (x w).1 with
      | .ok a => f a w
      | .error fault => (.error fault, w) := by
    intro w
    rw [bind_apply, hx.apply w]
    cases (x w).1 <;> rfl
  constructor
  · intro w
    rw [happly]
    cases (x w).1 with
    | ok a => exact (hf a).world w
    | error fault => rfl
  · intro w fault h
    rw [happly] at h
    cases hr : (x w).1 with
    | ok a =>
      rw [hr] at h
      exact (hf a).fault w fault h
    | error other =>
      rw [hr] at h
      cases h
      exact hx.fault w fault hr

/-- What reads may come before a clean action. -/
theorem Reads.bind_clean (hx : x.Reads) (hf : ∀ a, (f a).Clean) : (x >>= f).Clean := by
  intro w fault h hd
  cases hr : (x w).1 with
  | ok a =>
    have hxw : x w = (.ok a, w) := hr ▸ hx.apply w
    rw [bind_apply_of_ok hxw] at h ⊢
    exact hf a w fault h hd
  | error other =>
    have hxw : x w = (.error other, w) := hr ▸ hx.apply w
    rw [bind_apply_of_error hxw]

/-- What prints and writes may come after a clean action. -/
theorem Clean.bind_reports (hx : x.Clean) (hf : ∀ a, (f a).Reports) : (x >>= f).Clean := by
  intro w fault h hd
  cases hxw : x w with
  | mk result w' =>
    cases result with
    | ok a =>
      rw [bind_apply_of_ok hxw] at h
      rw [hf a w' fault h] at hd
      cases hd
    | error other =>
      rw [bind_apply_of_error hxw] at h ⊢
      cases h
      have hw := hx w fault (by rw [hxw]) hd
      rw [hxw] at hw
      exact hw

theorem Reports.bind (hx : x.Reports) (hf : ∀ a, (f a).Reports) : (x >>= f).Reports := by
  intro w fault h
  cases hxw : x w with
  | mk result w' =>
    cases result with
    | ok a =>
      rw [bind_apply_of_ok hxw] at h
      exact hf a w' fault h
    | error other =>
      rw [bind_apply_of_error hxw] at h
      cases h
      exact hx w fault (by rw [hxw])

/-- An action proceeds beyond what it reads first if that has a value and the rest proceeds. -/
theorem Reads.proceeds_bind_iff (hx : x.Reads) :
    (x >>= f).Proceeds w ↔ ∃ a, (x w).1 = .ok a ∧ (f a).Proceeds w := by
  cases hr : (x w).1 with
  | ok a =>
    have hxw : x w = (.ok a, w) := hr ▸ hx.apply w
    rw [Proceeds, bind_apply_of_ok hxw]
    constructor
    · exact fun h => ⟨a, rfl, h⟩
    · rintro ⟨b, hb, h⟩
      cases hb
      exact h
  | error fault =>
    have hxw : x w = (.error fault, w) := hr ▸ hx.apply w
    rw [Proceeds, bind_apply_of_error hxw]
    constructor
    · intro h
      have hd := h fault rfl
      rw [hx.fault w fault hr] at hd
      cases hd
    · rintro ⟨b, hb, -⟩
      cases hb

/-! ## The actions of commands -/

theorem reads_pure (a : α) : (pure a : Action α).Reads := ⟨fun _ => rfl, fun _ _ h => by cases h⟩

theorem reads_getFiles : getFiles.Reads := ⟨fun _ => rfl, fun _ _ h => by cases h⟩

theorem reads_check {e : Except Fault α} (h : ∀ fault, e = .error fault → fault.isAboutDocument = false) :
    (check e).Reads :=
  ⟨fun _ => rfl, fun _ fault hf => h fault hf⟩

theorem reads_check_mapError {ε : Type} {e : Except ε α} {g : ε → Fault}
    (h : ∀ cause, (g cause).isAboutDocument = false) : (check (e.mapError g)).Reads := by
  refine reads_check fun fault hf => ?_
  obtain ⟨cause, -, rfl⟩ := mapError_eq_error_iff.1 hf
  exact h cause

theorem proceeds_check_bind {e : Except Fault α} (h : ∀ fault, e = .error fault → fault.isAboutDocument = false) :
    (check e >>= f).Proceeds w ↔ ∃ a, e = .ok a ∧ (f a).Proceeds w :=
  (reads_check h).proceeds_bind_iff

theorem proceeds_getFiles_bind {f : FileTree → Action β} :
    (getFiles >>= f).Proceeds w ↔ (f w.files).Proceeds w := Iff.rfl

theorem reports_pure (a : α) : (pure a : Action α).Reports := fun _ _ h => by cases h

theorem Prints.reports {a : α} {text : String} (h : x.Prints a text) : x.Reports := by
  intro w fault hf
  rw [h w] at hf
  cases hf

theorem reports_makeDirectories (path : String) : (makeDirectories path).Reports := by
  intro w fault h
  unfold makeDirectories at h
  split at h
  · cases h
  · cases h
    rfl

theorem reports_writeFile (path : String) (contents : ByteArray) : (writeFile path contents).Reports := by
  intro w fault h
  unfold writeFile at h
  split at h
  · cases h
  · cases h
    rfl

theorem reports_writeJson (path : String) (value : Json.Value) : (writeJson path value).Reports := by
  unfold writeJson
  dsimp only
  split
  · exact (reports_makeDirectories _).bind fun _ => reports_writeFile _ _
  · exact reports_writeFile _ _

theorem reports_writeDocument (document : Option String) (value : Json.Value) :
    (writeDocument document value).Reports := by
  cases document with
  | none => exact reports_pure ()
  | some path => exact reports_writeJson path value

/-- A fault after all else is from writing the document. -/
theorem writeJson_of_writeDocument {document : Option String} (value : Json.Value) (a : α) (text : String)
    {fault : Fault}
    (h : ((writeDocument document value >>= fun _ => pure a) { w with output := w.output ++ text }).1 = .error fault) :
    ∃ path value text, document = some path ∧
      (writeJson path value { w with output := w.output ++ text }).1 = .error fault := by
  rw [bind_pure_fst] at h
  cases document with
  | none => cases h
  | some path =>
    refine ⟨path, value, text, rfl, ?_⟩
    change (writeJson path value { w with output := w.output ++ text }).1.map _ = _ at h
    cases hw : (writeJson path value { w with output := w.output ++ text }).1 with
    | ok _ => rw [hw] at h; cases h
    | error e => rw [hw] at h; cases h; rfl

/-- Whether a file can be written does not depend on what is to be in it. -/
theorem writeFile_fst_eq (path : String) (contents contents' : ByteArray) {w w' : World} (h : w.files = w'.files) :
    (writeFile path contents w).1 = (writeFile path contents' w').1 := by
  unfold writeFile FileTree.write
  rw [h]
  cases w'.files.locate path with
  | error e => rfl
  | ok target =>
    cases target with
    | missing directory name => rfl
    | present place =>
      dsimp only
      cases w'.files.get? place with
      | none => rfl
      | some node =>
        cases node with
        | directory | link => rfl
        | file => cases place.getLast? <;> rfl

theorem makeDirectories_fst_eq (path : String) {w w' : World} (h : w.files = w'.files) :
    (makeDirectories path w).1 = (makeDirectories path w').1 ∧
      (makeDirectories path w).2.files = (makeDirectories path w').2.files := by
  unfold makeDirectories
  rw [h]
  split <;> exact ⟨rfl, rfl⟩

theorem writeJson_fst_eq (path : String) (value value' : Json.Value) {w w' : World} (h : w.files = w'.files) :
    (writeJson path value w).1 = (writeJson path value' w').1 := by
  unfold writeJson
  dsimp only
  split
  · obtain ⟨hresult, hfiles⟩ := makeDirectories_fst_eq ((Path.parent? path).getD "") h
    rw [bind_apply, bind_apply]
    rcases hm : makeDirectories ((Path.parent? path).getD "") w with ⟨_ | _, v⟩ <;>
      rcases hm' : makeDirectories ((Path.parent? path).getD "") w' with ⟨_ | _, v'⟩ <;>
        rw [hm, hm'] at hresult hfiles
    · exact congrArg Except.error (Except.error.inj hresult)
    · cases hresult
    · cases hresult
    · exact writeFile_fst_eq path _ _ hfiles
  · exact writeFile_fst_eq path _ _ h

/-- Whether a document can be written does not depend on what is to be in it. -/
theorem writeDocument_fst_eq (document : Option String) (value value' : Json.Value) {w w' : World}
    (h : w.files = w'.files) : (writeDocument document value w).1 = (writeDocument document value' w').1 := by
  cases document with
  | none => rfl
  | some path => exact writeJson_fst_eq path value value' h

end Action

/-! ## Workers -/

namespace Host

/-- How many workers there are if a number is asked for, or none is. -/
def workers (host : Host) (asked : Option Nat) : Nat := asked.getD (max 1 host.processors)

/-- The work on so many items can be done: some worker is there, and a pool can be started if one is needed. -/
def CanWork (host : Host) (asked : Option Nat) (items : Nat) : Prop :=
  asked ≠ some 0 ∧ (items ≠ 0 → 1 < host.workers asked → host.poolFailure? (host.workers asked) = none)

end Host

theorem resolveWorkers_apply (asked : Option Nat) (w : World) :
    resolveWorkers asked w = (if asked = some 0 then .error .noWorkers else .ok (w.host.workers asked), w) := by
  cases asked with
  | none => rfl
  | some n => cases n <;> rfl

theorem mapWorkers_apply {α β : Type} (items : List α) (workers : Nat) (f : α → β) (w : World) :
    mapWorkers items workers f w =
      (match if items = [] ∨ workers ≤ 1 then none else w.host.poolFailure? workers with
        | some reason => .error (.noPool reason)
        | none => .ok (items.map f), w) := by
  cases items with
  | nil => rfl
  | cons a items =>
    by_cases h : workers ≤ 1
    · simp [mapWorkers, h]
    · simp only [mapWorkers, h, List.isEmpty_cons, Bool.false_eq_true, if_false, Action.getHost_bind_apply,
        reduceCtorEq, or_self]
      cases w.host.poolFailure? workers <;> rfl

section Workers

variable {α β γ : Type} {asked : Option Nat} {items : List α} {f : α → β}

theorem reads_resolveWorkers (asked : Option Nat) : (resolveWorkers asked).Reads := by
  constructor
  · intro w
    rw [resolveWorkers_apply]
  · intro w fault h
    rw [resolveWorkers_apply] at h
    dsimp only at h
    split at h
    · cases h
      rfl
    · cases h

theorem reads_mapWorkers (items : List α) (workers : Nat) (f : α → β) : (mapWorkers items workers f).Reads := by
  constructor
  · intro w
    rw [mapWorkers_apply]
  · intro w fault h
    rw [mapWorkers_apply] at h
    dsimp only at h
    split at h
    · cases h
      rfl
    · cases h

/-- If the work can be done, each item has what comes of it, in the order of the items. -/
theorem workers_bind_apply {w : World} (h : w.host.CanWork asked items.length) (g : List β → Action γ) :
    (resolveWorkers asked >>= fun n => mapWorkers items n f >>= g) w = g (items.map f) w := by
  obtain ⟨hasked, hpool⟩ := h
  have hresolve : resolveWorkers asked w = (.ok (w.host.workers asked), w) := by
    rw [resolveWorkers_apply, if_neg hasked]
  have hmap : mapWorkers items (w.host.workers asked) f w = (.ok (items.map f), w) := by
    rw [mapWorkers_apply]
    split
    · rename_i reason hr
      by_cases hn : items = [] ∨ w.host.workers asked ≤ 1
      · rw [if_pos hn] at hr
        cases hr
      · rw [not_or] at hn
        rw [if_neg (by simp [hn]), hpool (mt List.length_eq_zero_iff.1 hn.1) (by omega)] at hr
        cases hr
    · rfl
  rw [Action.bind_apply_of_ok hresolve, Action.bind_apply_of_ok hmap]

/-- If the work cannot be done, that ends the run. -/
theorem workers_bind_apply_error {w : World} (h : ¬ w.host.CanWork asked items.length) :
    ∃ fault : Fault, fault.isAboutDocument = false ∧ ∀ {β γ : Type} (f : α → β) (g : List β → Action γ),
      (resolveWorkers asked >>= fun n => mapWorkers items n f >>= g) w = (.error fault, w) := by
  by_cases hasked : asked = some 0
  · subst hasked
    exact ⟨.noWorkers, rfl, fun f g => rfl⟩
  · have hresolve : resolveWorkers asked w = (.ok (w.host.workers asked), w) := by
      rw [resolveWorkers_apply, if_neg hasked]
    simp only [Host.CanWork, hasked, ne_eq, not_false_eq_true, true_and, Classical.not_imp] at h
    obtain ⟨hitems, hmany, hpool⟩ := h
    cases hr : w.host.poolFailure? (w.host.workers asked) with
    | none => exact absurd hr hpool
    | some reason =>
      refine ⟨.noPool reason, rfl, fun f g => ?_⟩
      have hmap : mapWorkers items (w.host.workers asked) f w = (.error (.noPool reason), w) := by
        rw [mapWorkers_apply, if_neg (by rw [not_or]; exact ⟨mt List.length_eq_zero_iff.2 hitems, by omega⟩), hr]
      rw [Action.bind_apply_of_ok hresolve, Action.bind_apply_of_error hmap]

theorem workers_bind_apply_eq_ok_iff {w w' : World} {g : List β → Action γ} {c : γ} :
    (resolveWorkers asked >>= fun n => mapWorkers items n f >>= g) w = (.ok c, w') ↔
      w.host.CanWork asked items.length ∧ g (items.map f) w = (.ok c, w') := by
  by_cases h : w.host.CanWork asked items.length
  · rw [workers_bind_apply h]
    exact ⟨fun hg => ⟨h, hg⟩, fun hg => hg.2⟩
  · obtain ⟨fault, -, hf⟩ := workers_bind_apply_error h
    rw [hf f g]
    simp [h]

end Workers

end ConfigCoverage
