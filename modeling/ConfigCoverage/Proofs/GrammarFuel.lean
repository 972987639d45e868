import ConfigCoverage.Java.Parser
import ConfigCoverage.Python.Parser

/-!
# A parse comes to its end

The run of a grammar is cut off where more expressions stand one inside the other than `Grammar.fuelFor` says. It never
comes that far. The rules of a grammar stand in layers: before a rule has consumed a terminal, it calls only rules of
lower layers. So a run goes down a bounded way between two terminals, and the places of the input bound how often.

* `Peg.consumes`, `Peg.depth`, `Peg.fits`: what the layers say of an expression.
* `Grammar.Layers.Hold`: a grammar keeps to its layers.
* `Grammar.run_advances`: an expression that consumes moves on.
* `Grammar.run_eq_of_le`: with enough fuel for what is left of the input, more changes nothing.
* `Java.run_eq_parse`, `Python.run_eq_parse`: `Grammar.fuelFor` is enough for both grammars.
-/

namespace ConfigCoverage

variable {τ ν α : Type}

/-! ## Layers -/

/-- What is said of the rules of a grammar. -/
structure Grammar.Layers (ν : Type) where
  /-- The rule consumes a terminal wherever it succeeds. -/
  consumes : ν → Bool
  /-- The rules that it calls before it has consumed a terminal have lower levels. -/
  level : ν → Nat

/-- A bound for the expressions one inside the other that a rule enters before it consumes a terminal: fifty of its own,
and those of the rules of lower levels. -/
def Grammar.Layers.depth (l : Grammar.Layers ν) (r : ν) : Nat := 50 * (l.level r + 1)

namespace Peg

/-- The expression consumes a terminal wherever it succeeds. -/
def consumes (l : Grammar.Layers ν) : Peg τ ν α → Bool
  | .terminal _ => true
  | .rule r => l.consumes r
  | .seq p q => p.consumes l || q.consumes l
  | .alt p q => p.consumes l && q.consumes l
  | .build _ p => p.consumes l
  | .empty | .star _ | .ahead _ | .absent _ => false

/-- A bound for the expressions one inside the other that are entered before a terminal is consumed. -/
def depth (l : Grammar.Layers ν) : Peg τ ν α → Nat
  | .empty | .terminal _ => 1
  | .rule r => l.depth r + 1
  | .seq p q => max (p.depth l) (if p.consumes l then 0 else q.depth l) + 1
  | .alt p q => max (p.depth l) (q.depth l) + 1
  | .star p | .ahead p | .absent p | .build _ p => p.depth l + 1

/-- What can be entered right after a terminal goes no deeper than `limit`. -/
def fits (l : Grammar.Layers ν) (limit : Nat) : Peg τ ν α → Bool
  | .empty | .terminal _ | .rule _ => true
  | .seq p q => p.fits l limit && q.fits l limit && decide (q.depth l ≤ limit)
  | .alt p q => p.fits l limit && q.fits l limit
  | .star p => p.fits l limit && decide (p.depth l + 1 ≤ limit)
  | .ahead p | .absent p | .build _ p => p.fits l limit

end Peg

namespace Grammar

/-- A grammar keeps to its layers on inputs of `size` places: terminals are read from the input and consume, and the
expression of each rule is what the layers say. -/
structure Layers.Hold (l : Layers ν) (g : Grammar τ ν α) (limit size : Nat) : Prop where
  step {t : τ} {pos next : Nat} {xs : List α} : g.step t pos = some (xs, next) → pos < next ∧ pos < size
  consumes (r : ν) : l.consumes r = true → (g.rules r).consumes l = true
  depth (r : ν) : (g.rules r).depth l ≤ l.depth r
  fits (r : ν) : (g.rules r).fits l limit = true

variable {g : Grammar τ ν α} {l : Layers ν} {limit size : Nat}

/-- A run never goes back, moves on only inside the input, and moves on where its expression consumes. -/
theorem run_advances (h : l.Hold g limit size) {fuel : Nat} {p : Peg τ ν α} {pos far next : Nat} {xs : List α}
    (hrun : (g.run fuel p pos far).result = some (xs, next)) :
    pos ≤ next ∧ (pos < next → pos < size) ∧ (p.consumes l = true → pos < next) := by
  induction fuel generalizing p pos far next xs with
  | zero => simp [run] at hrun
  | succ fuel ih =>
    cases p with
    | empty =>
      simp only [run, Option.some.injEq, Prod.mk.injEq] at hrun
      simp [hrun.2, Peg.consumes]
    | terminal t =>
      obtain ⟨hnext, hsize⟩ := h.step hrun
      exact ⟨Nat.le_of_lt hnext, fun _ => hsize, fun _ => hnext⟩
    | rule r =>
      obtain ⟨hle, hsize, hlt⟩ := ih (p := g.rules r) hrun
      exact ⟨hle, hsize, fun hc => hlt (h.consumes r hc)⟩
    | seq p q =>
      rcases h₁ : g.run fuel p pos far with ⟨_ | ⟨ys, mid⟩, far₁⟩
      · simp [run, h₁] at hrun
      · rcases h₂ : g.run fuel q mid far₁ with ⟨_ | ⟨zs, last⟩, far₂⟩
        · simp [run, h₁, h₂] at hrun
        · simp only [run, h₁, h₂, Option.some.injEq, Prod.mk.injEq] at hrun
          obtain ⟨-, rfl⟩ := hrun
          have hp := ih (p := p) (congrArg Parsed.result h₁)
          have hq := ih (p := q) (congrArg Parsed.result h₂)
          refine ⟨by omega, by omega, fun hc => ?_⟩
          rcases (Bool.or_eq_true _ _).mp hc with hc | hc
          · exact Nat.lt_of_lt_of_le (hp.2.2 hc) hq.1
          · exact Nat.lt_of_le_of_lt hp.1 (hq.2.2 hc)
    | alt p q =>
      rcases h₁ : g.run fuel p pos far with ⟨_ | ⟨ys, mid⟩, far₁⟩
      · simp only [run, h₁] at hrun
        obtain ⟨hle, hsize, hlt⟩ := ih (p := q) hrun
        exact ⟨hle, hsize, fun hc => hlt ((Bool.and_eq_true _ _).mp hc).2⟩
      · simp only [run, h₁] at hrun
        obtain ⟨hle, hsize, hlt⟩ := ih (p := p) ((congrArg Parsed.result h₁).trans hrun)
        exact ⟨hle, hsize, fun hc => hlt ((Bool.and_eq_true _ _).mp hc).1⟩
    | star p =>
      rcases h₁ : g.run fuel p pos far with ⟨_ | ⟨ys, mid⟩, far₁⟩
      · simp only [run, h₁, Option.some.injEq, Prod.mk.injEq] at hrun
        simp [hrun.2, Peg.consumes]
      · have hp := ih (p := p) (congrArg Parsed.result h₁)
        by_cases hmid : mid ≤ pos
        · simp only [run, h₁, if_pos hmid, Option.some.injEq, Prod.mk.injEq] at hrun
          simp [hrun.2, Peg.consumes]
        · rcases h₂ : g.run fuel (.star p) mid far₁ with ⟨_ | ⟨zs, last⟩, far₂⟩
          · simp only [run, h₁, if_neg hmid, h₂, Option.some.injEq, Prod.mk.injEq] at hrun
            obtain ⟨-, rfl⟩ := hrun
            exact ⟨hp.1, hp.2.1, fun _ => Nat.lt_of_not_le hmid⟩
          · simp only [run, h₁, if_neg hmid, h₂, Option.some.injEq, Prod.mk.injEq] at hrun
            obtain ⟨-, rfl⟩ := hrun
            have hq := ih (p := .star p) (congrArg Parsed.result h₂)
            exact ⟨by omega, by omega, fun _ => by omega⟩
    | ahead p =>
      rcases h₁ : g.run fuel p pos far with ⟨_ | ⟨ys, mid⟩, far₁⟩
      · simp [run, h₁] at hrun
      · simp only [run, h₁, Option.some.injEq, Prod.mk.injEq] at hrun
        simp [hrun.2, Peg.consumes]
    | absent p =>
      rcases h₁ : g.run fuel p pos far with ⟨_ | ⟨ys, mid⟩, far₁⟩
      · simp only [run, h₁, Option.some.injEq, Prod.mk.injEq] at hrun
        simp [hrun.2, Peg.consumes]
      · simp [run, h₁] at hrun
    | build f p =>
      rcases h₁ : g.run fuel p pos far with ⟨_ | ⟨ys, mid⟩, far₁⟩
      · simp [run, h₁] at hrun
      · cases h₂ : f ys with
        | none => simp [run, h₁, h₂] at hrun
        | some zs =>
          simp only [run, h₁, h₂, Option.some.injEq, Prod.mk.injEq] at hrun
          obtain ⟨-, rfl⟩ := hrun
          exact ih (p := p) (congrArg Parsed.result h₁)

/-- What a run at `next` needs is covered by what is left for it at `pos`: it stands farther on, or goes less deep. -/
theorem need_le {pos next fuel d limit size : Nat} (hle : pos ≤ next) (hsize : pos < next → pos < size)
    (hd : d ≤ limit) (hfuel : limit * (size - pos) ≤ fuel) (hsame : pos = next → limit * (size - pos) + d ≤ fuel) :
    limit * (size - next) + d ≤ fuel := by
  rcases Nat.eq_or_lt_of_le hle with rfl | hlt
  · exact hsame rfl
  · have hstep : limit * (size - next + 1) ≤ limit * (size - pos) :=
      Nat.mul_le_mul_left limit (by have := hsize hlt; omega)
    rw [Nat.mul_succ] at hstep
    omega

/-- With enough fuel for what is left of the input, more changes nothing. The induction is on the fuel; an expression is
entered at the same place, where it goes less deep, or after a terminal. -/
theorem run_eq_of_le (h : l.Hold g limit size) {fuel more : Nat} {p : Peg τ ν α} {pos far : Nat}
    (hp : p.fits l limit = true) (hfuel : limit * (size - pos) + p.depth l ≤ fuel) (hmore : fuel ≤ more) :
    g.run more p pos far = g.run fuel p pos far := by
  induction fuel generalizing more p pos far with
  | zero => cases p <;> simp [Peg.depth] at hfuel
  | succ fuel ih =>
    obtain ⟨more, rfl⟩ : ∃ n, more = n + 1 := ⟨more - 1, by omega⟩
    replace hmore : fuel ≤ more := Nat.le_of_succ_le_succ hmore
    cases p with
    | empty => rfl
    | terminal t => rfl
    | rule r =>
      have hr := h.depth r
      simp only [Peg.depth] at hfuel
      exact ih (h.fits r) (by omega) hmore
    | seq p q =>
      simp only [Peg.fits, Bool.and_eq_true, decide_eq_true_eq] at hp
      simp only [Peg.depth] at hfuel
      simp only [run]
      rw [ih hp.1.1 (by omega) hmore]
      rcases h₁ : g.run fuel p pos far with ⟨_ | ⟨ys, mid⟩, far₁⟩
      · rfl
      · obtain ⟨hle, hsize, hlt⟩ := run_advances h (congrArg Parsed.result h₁)
        have hq : limit * (size - mid) + q.depth l ≤ fuel := by
          refine need_le hle hsize hp.2 (by omega) fun hmid => ?_
          have hnot : ¬p.consumes l = true := fun hc => by have := hlt hc; omega
          rw [if_neg hnot] at hfuel
          omega
        simp only [ih hp.1.2 hq hmore]
    | alt p q =>
      simp only [Peg.fits, Bool.and_eq_true] at hp
      simp only [Peg.depth] at hfuel
      simp only [run]
      rw [ih hp.1 (by omega) hmore]
      rcases h₁ : g.run fuel p pos far with ⟨_ | ⟨ys, mid⟩, far₁⟩
      · exact ih hp.2 (by omega) hmore
      · rfl
    | star p =>
      have hstar := hp
      simp only [Peg.fits, Bool.and_eq_true, decide_eq_true_eq] at hp
      simp only [Peg.depth] at hfuel
      simp only [run]
      rw [ih hp.1 (by omega) hmore]
      rcases h₁ : g.run fuel p pos far with ⟨_ | ⟨ys, mid⟩, far₁⟩
      · rfl
      · by_cases hmid : mid ≤ pos
        · simp only [if_pos hmid]
        · obtain ⟨hle, hsize, -⟩ := run_advances h (congrArg Parsed.result h₁)
          have hrest : limit * (size - mid) + (Peg.star p).depth l ≤ fuel :=
            need_le hle hsize hp.2 (by omega) (by omega)
          simp only [if_neg hmid, ih hstar hrest hmore]
    | ahead p | absent p | build f p =>
      simp only [Peg.depth] at hfuel
      simp only [run]
      rw [ih (p := p) hp (by omega) hmore]

/-- `fuelFor` is enough for grammars whose rules fit. -/
theorem run_eq_parse (h : l.Hold g 2000 size) {start : ν} (hstart : l.depth start ≤ 2000) {fuel : Nat}
    (hfuel : fuelFor size ≤ fuel) : g.run fuel (.rule start) 0 0 = g.parse size start := by
  refine run_eq_of_le h rfl ?_ hfuel
  simp only [Peg.depth, fuelFor]
  omega

end Grammar

/-! ## The two grammars -/

/-- The layers of the Java grammar. -/
def Java.layers : Grammar.Layers Java.Rule where
  consumes
    | .labelExpression | .labelOperand => false
    | _ => true
  level
    | .program => 8
    | .topLevel => 7
    | .elementValue | .variableInitializer | .statement => 6
    | .expression | .labelExpression => 5
    | .operand | .labelOperand => 4
    | .primary | .classMember => 3
    | .type | .localVariableDeclaration | .typeDeclaration | .methodDeclaration => 2
    | .plainType | .dimensions | .modifiers | .unitDeclaration => 1
    | _ => 0

/-- The layers of the Python grammar. -/
def Python.layers : Grammar.Layers Python.Rule where
  consumes
    | .ifRest => false
    | _ => true
  level
    | .source => 7
    | .embedded | .statement | .suite | .starOrNamed => 6
    | .namedTest | .testList => 5
    | .test => 4
    | .orTest => 3
    | .expression => 2
    | .factor => 1
    | _ => 0

namespace Java

theorem lt_of_closing? {tokens : Array Token} {fuel depth pos next : Nat}
    (h : closing? tokens fuel depth pos = some next) : pos < next := by
  induction fuel generalizing depth pos with
  | zero => cases h
  | succ fuel ih =>
    rw [closing?] at h
    split at h
    · cases h
    · split at h
      · exact Nat.lt_of_succ_lt (ih h)
      · split at h
        · split at h
          · cases h
            exact Nat.lt_succ_self pos
          · exact Nat.lt_of_succ_lt (ih h)
        · exact Nat.lt_of_succ_lt (ih h)

theorem stepToken_advances {tokens : Array Token} {t : Terminal} {pos next : Nat} {xs : List Node}
    (h : stepToken tokens t pos = some (xs, next)) : pos < next ∧ pos < tokens.size := by
  cases htoken : tokens[pos]? with
  | none => simp [stepToken, htoken] at h
  | some token =>
    refine ⟨?_, (Array.getElem?_eq_some_iff.1 htoken).1⟩
    cases t with
    | parenthesized =>
      simp only [stepToken, htoken] at h
      split at h
      · obtain ⟨last, hlast, he⟩ := Option.map_eq_some_iff.1 h
        cases he
        exact lt_of_closing? hlast
      · cases h
    | _ =>
      simp only [stepToken, htoken, Option.ite_none_right_eq_some, Option.some.injEq, Prod.mk.injEq] at h
      omega

theorem layers_hold (tokens : Array Token) : layers.Hold (grammar tokens) 2000 tokens.size where
  step := stepToken_advances
  consumes r := show layers.consumes r = true → (rules r).consumes layers = true by cases r <;> decide
  depth r := show (rules r).depth layers ≤ layers.depth r by cases r <;> decide
  fits r := show (rules r).fits layers 2000 = true by cases r <;> decide

/-- No text is refused for want of fuel. -/
theorem run_eq_parse (tokens : Array Token) {fuel : Nat} (hfuel : Grammar.fuelFor tokens.size ≤ fuel) :
    (grammar tokens).run fuel (.rule .program) 0 0 = (grammar tokens).parse tokens.size .program :=
  Grammar.run_eq_parse (layers_hold tokens) (by decide) hfuel

end Java

namespace Python

theorem stepToken_advances {isExpression : List Char → Bool} {tokens : Array Token} {t : Terminal} {pos next : Nat}
    {xs : List Part} (h : stepToken isExpression tokens t pos = some (xs, next)) : pos < next ∧ pos < tokens.size := by
  cases htoken : tokens[pos]? with
  | none => simp [stepToken, htoken] at h
  | some token =>
    refine ⟨?_, (Array.getElem?_eq_some_iff.1 htoken).1⟩
    cases t with
    | strings =>
      simp only [stepToken, htoken] at h
      split at h
      · cases h
      · rename_i hrun
        obtain ⟨value, -, he⟩ := Option.map_eq_some_iff.1 h
        cases he
        have hlength := List.length_pos_iff.2 fun hnil => hrun (List.isEmpty_iff.2 hnil)
        omega
    | _ =>
      simp only [stepToken, htoken, Option.ite_none_right_eq_some, Option.some.injEq, Prod.mk.injEq] at h
      omega

theorem layers_hold (isExpression : List Char → Bool) (tokens : Array Token) :
    layers.Hold ⟨rules, stepToken isExpression tokens⟩ 2000 tokens.size where
  step := stepToken_advances
  consumes r := show layers.consumes r = true → (rules r).consumes layers = true by cases r <;> decide
  depth r := show (rules r).depth layers ≤ layers.depth r by cases r <;> decide
  fits r := show (rules r).fits layers 2000 = true by cases r <;> decide

/-- No text is refused for want of fuel. -/
theorem run_eq_parse (isExpression : List Char → Bool) (tokens : Array Token) (start : Rule) {fuel : Nat}
    (hfuel : Grammar.fuelFor tokens.size ≤ fuel) :
    (Grammar.mk rules (stepToken isExpression tokens)).run fuel (.rule start) 0 0 =
      (Grammar.mk rules (stepToken isExpression tokens)).parse tokens.size start :=
  Grammar.run_eq_parse (layers_hold isExpression tokens) (by cases start <;> decide) hfuel

end Python

end ConfigCoverage
