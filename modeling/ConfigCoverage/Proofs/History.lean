import ConfigCoverage.Language
import ConfigCoverage.TestCase
import ConfigCoverage.Proofs.Results

/-!
# Histories of a context

A context goes through any number of calls, some of which fail. It holds a module, its rules and the results of the last
file; what it answers depends on the first two alone.

* `Context.call_of_input`: one analysis, whatever call it comes from: the answer, and what is left in the store.
* `Context.after_module`, `Context.after_rules`: the module is that of the last call that sets or clears it; the rules
  stay.
* `Context.after_results_of_untouched`, `Context.after_results_of_last`: the last call that touches the store decides what
  is in it.
* `Context.after_history`: all of it for every history.
-/

namespace ConfigCoverage

/-! ## Calls -/

/-- A call on a context. -/
inductive Call where
  | setModule (identifier : String)
  | clearModule
  | reset
  | takeResults
  | process (file : SourceFile)
  | processSource (language : Language) (source fileName : String)

/-- What a call hands back. -/
inductive Reply where
  | nothing
  | taken (results : ResultMap)
  | analysed (answer : Except Failure ResultMap)

namespace Call

/-- The module that a call sets, if it sets or clears one. -/
def module? : Call → Option (Option ModuleId)
  | setModule identifier => some (some ⟨identifier⟩)
  | clearModule => some none
  | _ => none

/-- The file that a call analyses, or why it has none; other calls analyse nothing. -/
def input? : Call → Option (Except Failure SourceFile)
  | process file => some (.ok file)
  | processSource language source fileName => some (language.parse source fileName)
  | _ => none

/-- Does a call replace or drop the stored results? -/
def touchesResults : Call → Bool
  | setModule _ | clearModule => false
  | _ => true

end Call

/-- What the analysis of an input answers: a missing module comes first, then a source that does not parse. -/
def inputAnswer (rules : Rules) : Option ModuleId → Except Failure SourceFile → Except Failure ResultMap
  | none, _ => .error .noModule
  | some _, .error e => .error e
  | some m, .ok file => processFile rules (some m) file

namespace Context

/-- The context after a call, and what the call hands back. -/
def call (c : Context) : Call → Context × Reply
  | .setModule identifier => (c.setModule identifier, .nothing)
  | .clearModule => (c.clearModule, .nothing)
  | .reset => (c.reset, .nothing)
  | .takeResults =>
    let (c, r) := c.takeResults
    (c, .taken r)
  | .process file =>
    let (c, answer) := c.process file
    (c, .analysed answer)
  | .processSource language source fileName =>
    let (c, answer) := c.processSource fun _ => language.parse source fileName
    (c, .analysed answer)

/-- The context after calls, one after another. -/
def after (c : Context) : List Call → Context
  | [] => c
  | q :: calls => (c.call q).1.after calls

/-- `r` is what the last analysis among `calls` answered, and no later call dropped it. -/
def LastKept (c : Context) (calls : List Call) (r : ResultMap) : Prop :=
  ∃ earlier q later, calls = earlier ++ q :: later ∧ ((c.after earlier).call q).2 = .analysed (.ok r) ∧
    ∀ l ∈ later, l.touchesResults = false

/-! ## One call -/

/-- **One analysis**, of a file or of a source: the answer is that of the rules, the module and the input, and the store
holds what the answer leaves. Nothing else changes. -/
theorem call_of_input (c : Context) {q : Call} {input : Except Failure SourceFile} (h : q.input? = some input) :
    c.call q = ({ c with results := .ofAnswer (inputAnswer c.rules c.module input) },
      .analysed (inputAnswer c.rules c.module input)) := by
  obtain ⟨module, rules, results⟩ := c
  cases q with
  | setModule | clearModule | reset | takeResults => cases h
  | process file =>
    cases h
    cases module with
    | none => rfl
    | some m => simp only [call, process_eq, inputAnswer]
  | processSource language source fileName =>
    obtain rfl : language.parse source fileName = input := Option.some.inj h
    cases module with
    | none => rfl
    | some m =>
      cases hp : language.parse source fileName with
      | error e => simp only [call, processSource, hp, inputAnswer, ResultMap.ofAnswer, reset]
      | ok file => simp only [call, processSource, hp, process_eq, inputAnswer]

/-- Only an analysis hands back an answer. -/
theorem exists_input_of_analysed {c : Context} {q : Call} {answer : Except Failure ResultMap}
    (h : (c.call q).2 = .analysed answer) :
    ∃ input, q.input? = some input ∧ answer = inputAnswer c.rules c.module input := by
  cases hq : q.input? with
  | none => cases q <;> cases hq <;> cases h
  | some input =>
    rw [call_of_input c hq] at h
    cases h
    exact ⟨input, rfl, rfl⟩

theorem call_rules (c : Context) (q : Call) : (c.call q).1.rules = c.rules := by
  cases q with
  | setModule | clearModule | reset | takeResults => rfl
  | process | processSource => rw [call_of_input c rfl]

theorem call_module (c : Context) (q : Call) : (c.call q).1.module = q.module?.getD c.module := by
  cases q with
  | setModule | clearModule | reset | takeResults => rfl
  | process | processSource => rw [call_of_input c rfl]; rfl

/-- A call that touches the store leaves in it what it answers, and nothing if it answers nothing. -/
theorem call_results_of_touches (c : Context) {q : Call} (h : q.touchesResults = true) :
    (c.call q).1.results = (q.input?.map fun input => .ofAnswer (inputAnswer c.rules c.module input)).getD .empty := by
  cases q with
  | setModule | clearModule => cases h
  | reset | takeResults => rfl
  | process | processSource => rw [call_of_input c rfl]; rfl

theorem call_results_of_not_touches (c : Context) {q : Call} (h : q.touchesResults = false) :
    (c.call q).1.results = c.results := by
  cases q with
  | setModule | clearModule => rfl
  | reset | takeResults | process | processSource => cases h

/-! ## Histories -/

theorem after_append (c : Context) (earlier later : List Call) :
    c.after (earlier ++ later) = (c.after earlier).after later := by
  induction earlier generalizing c with
  | nil => rfl
  | cons q earlier ih => exact ih (c.call q).1

theorem after_rules (c : Context) (calls : List Call) : (c.after calls).rules = c.rules := by
  induction calls generalizing c with
  | nil => rfl
  | cons q calls ih =>
    rw [after, ih, call_rules]

/-- The module is that of the last call that sets or clears it. -/
theorem after_module (c : Context) (calls : List Call) :
    (c.after calls).module = (calls.reverse.findSome? Call.module?).getD c.module := by
  induction calls generalizing c with
  | nil => rfl
  | cons q calls ih =>
    rw [after, ih, call_module, List.reverse_cons, List.findSome?_append, List.findSome?_singleton]
    cases calls.reverse.findSome? Call.module? <;> rfl

theorem after_results_of_untouched (c : Context) {calls : List Call} (h : ∀ q ∈ calls, q.touchesResults = false) :
    (c.after calls).results = c.results := by
  induction calls generalizing c with
  | nil => rfl
  | cons q calls ih =>
    rw [after, ih _ fun l hl => h l (List.mem_cons_of_mem q hl),
      call_results_of_not_touches c (h q List.mem_cons_self)]

/-- What is in the store was left by the last call that touches it. -/
theorem after_results_of_last (c : Context) {earlier later : List Call} {q : Call}
    (h : ∀ l ∈ later, l.touchesResults = false) :
    (c.after (earlier ++ q :: later)).results = ((c.after earlier).call q).1.results := by
  rw [after_append, after, after_results_of_untouched _ h]

/-- A history leaves the store alone or has a last call that touches it. -/
theorem untouched_or_last (calls : List Call) :
    (∀ q ∈ calls, q.touchesResults = false) ∨
    ∃ earlier q later, calls = earlier ++ q :: later ∧ q.touchesResults = true ∧
      ∀ l ∈ later, l.touchesResults = false := by
  induction calls with
  | nil => exact .inl fun q hq => absurd hq List.not_mem_nil
  | cons q calls ih =>
    rcases ih with hu | ⟨earlier, q', later, rfl, hq', hl⟩
    · cases hq : q.touchesResults with
      | true => exact .inr ⟨[], q, calls, rfl, hq, hu⟩
      | false =>
        refine .inl fun l hl => ?_
        rcases List.mem_cons.1 hl with rfl | hl
        · exact hq
        · exact hu l hl
    · exact .inr ⟨q :: earlier, q', later, rfl, hq', hl⟩

/-- Without an analysis that stands, the store is as at the start or was emptied. -/
theorem after_results_of_not_lastKept (c : Context) {calls : List Call} (h : ∀ r, ¬ c.LastKept calls r) :
    (c.after calls).results = if calls.any Call.touchesResults then .empty else c.results := by
  rcases untouched_or_last calls with hu | ⟨earlier, q, later, rfl, hq, hl⟩
  · rw [after_results_of_untouched c hu, if_neg]
    rw [List.any_eq_true]
    rintro ⟨q, hq, ht⟩
    rw [hu q hq] at ht
    cases ht
  · rw [if_pos (List.any_eq_true.2 ⟨q, by simp, hq⟩), after_results_of_last c hl, call_results_of_touches _ hq]
    cases hi : q.input? with
    | none => rfl
    | some input =>
      -- an answer with results would be one that stands
      cases ha : inputAnswer (c.after earlier).rules (c.after earlier).module input with
      | error e => rw [Option.map_some, ha]; rfl
      | ok r => exact absurd ⟨earlier, q, later, rfl, by rw [call_of_input _ hi, ha], hl⟩ (h r)

/-- An analysis that stands is what is in the store. -/
theorem LastKept.results_eq {c : Context} {calls : List Call} {r : ResultMap} (h : c.LastKept calls r) :
    (c.after calls).results = r := by
  obtain ⟨earlier, q, later, rfl, hq, hl⟩ := h
  obtain ⟨input, hi, ha⟩ := exists_input_of_analysed hq
  rw [after_results_of_last c hl, call_of_input _ hi, ← ha]
  rfl

/-- A context of its own for one file gives the same results. -/
theorem processStandard_eq (file : SourceFile) (identifier : String) :
    processStandard file identifier = processFile .standard (some ⟨identifier⟩) file := by
  have h := process_eq ((ofRules .standard).setModule identifier) file
  simp only [processStandard, h]
  show (processFile .standard (some ⟨identifier⟩) file).map
    (fun _ => ResultMap.ofAnswer (processFile .standard (some ⟨identifier⟩) file)) = _
  cases processFile .standard (some ⟨identifier⟩) file <;> rfl

/-- A successful answer had a module and a file, and is the answer to that file for that module. -/
theorem exists_of_inputAnswer_eq_ok {rules : Rules} {module : Option ModuleId} {input : Except Failure SourceFile}
    {r : ResultMap} (h : inputAnswer rules module input = .ok r) :
    ∃ file identifier, input = .ok file ∧ module = some ⟨identifier⟩ ∧
      processFile rules (some ⟨identifier⟩) file = .ok r := by
  match module, input, h with
  | some m, .ok file, h => exact ⟨file, m.identifier, rfl, rfl, h⟩

/-- **No history shows.** Whatever calls a context went through: its module is the one set or cleared last; it answers
to an input by its rules and that module alone; it holds the results of its last analysis if that succeeded and nothing
dropped them since, and else nothing, or what it held at the start if no call touched that. A failure leaves the module
and no results. -/
theorem after_history (c : Context) (calls : List Call) :
    (c.after calls).module = (calls.reverse.findSome? Call.module?).getD c.module ∧
    (∀ q input, q.input? = some input →
      ((c.after calls).call q).2 = .analysed (inputAnswer c.rules (c.after calls).module input)) ∧
    (∀ r, c.LastKept calls r → (c.after calls).results = r) ∧
    ((∀ r, ¬ c.LastKept calls r) →
      (c.after calls).results = if calls.any Call.touchesResults then .empty else c.results) ∧
    (∀ q e, ((c.after calls).call q).2 = .analysed (.error e) →
      ((c.after calls).call q).1.module = (c.after calls).module ∧ ((c.after calls).call q).1.results = .empty) ∧
    (∀ language source fileName, (c.after calls).module = none →
      ((c.after calls).call (.processSource language source fileName)).2 = .analysed (.error .noModule)) ∧
    (∀ language source fileName, (c.after calls).module ≠ none →
      ((c.after calls).call (.processSource language source fileName)).2 =
        match language.parse source fileName with
        | .error e => .analysed (.error e)
        | .ok file => ((c.after calls).call (.process file)).2) ∧
    (c.rules = .standard → ∀ q r, ((c.after calls).call q).2 = .analysed (.ok r) →
      ∃ file identifier, q.input? = some (.ok file) ∧ (c.after calls).module = some ⟨identifier⟩ ∧
        processStandard file identifier = .ok r) := by
  refine ⟨after_module c calls, ?_, fun r => LastKept.results_eq, after_results_of_not_lastKept c, ?_, ?_, ?_, ?_⟩
  · intro q input hq
    rw [call_of_input _ hq, after_rules]
  · intro q e he
    obtain ⟨input, hq, ha⟩ := exists_input_of_analysed he
    rw [call_of_input _ hq, ← ha]
    exact ⟨rfl, rfl⟩
  · intro language source fileName hm
    rw [call_of_input _ rfl, hm]
    rfl
  · intro language source fileName hm
    obtain ⟨m, hm⟩ := Option.ne_none_iff_exists'.1 hm
    rw [call_of_input _ rfl, hm]
    cases language.parse source fileName with
    | error e => rfl
    | ok file => show _ = ((c.after calls).call (.process file)).2; rw [call_of_input _ rfl, hm]
  · intro hr q r hq
    obtain ⟨input, hi, ha⟩ := exists_input_of_analysed hq
    obtain ⟨file, identifier, rfl, hm, hf⟩ := exists_of_inputAnswer_eq_ok ha.symm
    refine ⟨file, identifier, hi, hm, ?_⟩
    rw [after_rules, hr] at hf
    rw [processStandard_eq, hf]

end Context

end ConfigCoverage
