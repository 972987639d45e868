import ConfigCoverage.Grammar

/-!
# What a grammar yields

A property of values is carried through a grammar by a judgement on its expressions. The judgement says of an expression
that all its lists of values have a property, given what is known of the values of terminals and of rules. If every rule
keeps what is said of it, so does every run.

* `Peg.Gives`: the judgement.
* `Grammar.run_gives`: runs keep it.
* `Peg.Yields`, `Grammar.run_yields`: the same for a property of single values.
-/

namespace ConfigCoverage

variable {τ ν α : Type}

/-- All lists of values of an expression have the property `P`, if those of a terminal `t` have `T t` and those of a
rule `r` have `R r`. What stands under `ahead` and `absent` gives no values. -/
inductive Peg.Gives (T : τ → List α → Prop) (R : ν → List α → Prop) : Peg τ ν α → (List α → Prop) → Prop
  | empty {P : List α → Prop} : P [] → Gives T R .empty P
  | terminal {t : τ} {P : List α → Prop} : (∀ xs, T t xs → P xs) → Gives T R (.terminal t) P
  | rule {r : ν} {P : List α → Prop} : (∀ xs, R r xs → P xs) → Gives T R (.rule r) P
  | seq {p q : Peg τ ν α} {P Q S : List α → Prop} : Gives T R p P → Gives T R q Q →
    (∀ xs ys, P xs → Q ys → S (xs ++ ys)) → Gives T R (.seq p q) S
  | alt {p q : Peg τ ν α} {P : List α → Prop} : Gives T R p P → Gives T R q P → Gives T R (.alt p q) P
  | star {p : Peg τ ν α} {P Q : List α → Prop} : Gives T R p Q → P [] → (∀ xs ys, Q xs → P ys → P (xs ++ ys)) →
    Gives T R (.star p) P
  | ahead {p : Peg τ ν α} {P : List α → Prop} : P [] → Gives T R (.ahead p) P
  | absent {p : Peg τ ν α} {P : List α → Prop} : P [] → Gives T R (.absent p) P
  | build {f : List α → Option (List α)} {p : Peg τ ν α} {P Q : List α → Prop} : Gives T R p Q →
    (∀ xs ys, Q xs → f xs = .some ys → P ys) → Gives T R (.build f p) P

/-- All values of an expression have the property `P`, if those of a terminal `t` have `T t` and those of a rule `r`
have `R r`. What stands under `ahead` and `absent` gives no values. -/
inductive Peg.Yields (T : τ → α → Prop) (R : ν → α → Prop) : Peg τ ν α → (α → Prop) → Prop
  | empty {P : α → Prop} : Yields T R .empty P
  | terminal {t : τ} {P : α → Prop} : (∀ x, T t x → P x) → Yields T R (.terminal t) P
  | rule {r : ν} {P : α → Prop} : (∀ x, R r x → P x) → Yields T R (.rule r) P
  | seq {p q : Peg τ ν α} {P : α → Prop} : Yields T R p P → Yields T R q P → Yields T R (.seq p q) P
  | alt {p q : Peg τ ν α} {P : α → Prop} : Yields T R p P → Yields T R q P → Yields T R (.alt p q) P
  | star {p : Peg τ ν α} {P : α → Prop} : Yields T R p P → Yields T R (.star p) P
  | ahead {p : Peg τ ν α} {P : α → Prop} : Yields T R (.ahead p) P
  | absent {p : Peg τ ν α} {P : α → Prop} : Yields T R (.absent p) P
  | build {f : List α → Option (List α)} {p : Peg τ ν α} {P Q : α → Prop} : Yields T R p Q →
    (∀ xs ys, (∀ x ∈ xs, Q x) → f xs = .some ys → ∀ y ∈ ys, P y) → Yields T R (.build f p) P

theorem Peg.Yields.gives {T : τ → α → Prop} {R : ν → α → Prop} {p : Peg τ ν α} {P : α → Prop} (h : p.Yields T R P) :
    p.Gives (fun t xs => ∀ x ∈ xs, T t x) (fun r xs => ∀ x ∈ xs, R r x) (fun xs => ∀ x ∈ xs, P x) := by
  have happend : ∀ {P : α → Prop} (xs ys : List α), (∀ x ∈ xs, P x) → (∀ y ∈ ys, P y) → ∀ x ∈ xs ++ ys, P x :=
    fun _ _ hxs hys => List.forall_mem_append.2 ⟨hxs, hys⟩
  induction h with
  | empty => exact .empty nofun
  | terminal ht => exact .terminal fun xs hxs x hx => ht x (hxs x hx)
  | rule hr => exact .rule fun xs hxs x hx => hr x (hxs x hx)
  | seq _ _ hp hq => exact .seq hp hq happend
  | alt _ _ hp hq => exact .alt hp hq
  | star _ hp => exact .star hp nofun happend
  | ahead => exact .ahead nofun
  | absent => exact .absent nofun
  | build _ hf hp => exact .build hp hf

namespace Grammar

variable {g : Grammar τ ν α}

/-- Runs keep what the terminals and the rules of a grammar keep. The induction is on the fuel: a rule runs its
expression with less of it. -/
theorem run_gives {T : τ → List α → Prop} {R : ν → List α → Prop}
    (hterminals : ∀ t pos xs next, g.step t pos = some (xs, next) → T t xs)
    (hrules : ∀ r, (g.rules r).Gives T R (R r)) {fuel : Nat} {p : Peg τ ν α} {P : List α → Prop} (h : p.Gives T R P)
    {pos far next : Nat} {xs : List α} (hrun : (g.run fuel p pos far).result = some (xs, next)) : P xs := by
  induction fuel generalizing p P pos far next xs with
  | zero => simp [run] at hrun
  | succ fuel ih =>
    cases h with
    | empty hnil =>
      simp only [run, Option.some.injEq, Prod.mk.injEq] at hrun
      rwa [← hrun.1]
    | terminal ht => exact ht xs (hterminals _ _ _ _ hrun)
    | @rule r P hr => exact hr xs (ih (hrules r) hrun)
    | @seq p q P Q S hp hq happend =>
      rcases h₁ : g.run fuel p pos far with ⟨_ | ⟨ys, mid⟩, far₁⟩
      · simp [run, h₁] at hrun
      · rcases h₂ : g.run fuel q mid far₁ with ⟨_ | ⟨zs, last⟩, far₂⟩
        · simp [run, h₁, h₂] at hrun
        · simp only [run, h₁, h₂, Option.some.injEq, Prod.mk.injEq] at hrun
          rw [← hrun.1]
          exact happend ys zs (ih hp (by rw [h₁])) (ih hq (by rw [h₂]))
    | @alt p q P hp hq =>
      rcases h₁ : g.run fuel p pos far with ⟨_ | ⟨ys, mid⟩, far₁⟩
      · simp only [run, h₁] at hrun
        exact ih hq hrun
      · simp only [run, h₁] at hrun
        exact ih hp (by rw [h₁, hrun])
    | @star p P Q hp hnil happend =>
      rcases h₁ : g.run fuel p pos far with ⟨_ | ⟨ys, mid⟩, far₁⟩
      · simp only [run, h₁, Option.some.injEq, Prod.mk.injEq] at hrun
        rwa [← hrun.1]
      · by_cases hmid : mid ≤ pos
        · simp only [run, h₁, if_pos hmid, Option.some.injEq, Prod.mk.injEq] at hrun
          rwa [← hrun.1]
        · have hys : Q ys := ih hp (by rw [h₁])
          rcases h₂ : g.run fuel (.star p) mid far₁ with ⟨_ | ⟨zs, last⟩, far₂⟩
          · simp only [run, h₁, if_neg hmid, h₂, Option.some.injEq, Prod.mk.injEq] at hrun
            rw [← hrun.1, ← List.append_nil ys]
            exact happend ys [] hys hnil
          · simp only [run, h₁, if_neg hmid, h₂, Option.some.injEq, Prod.mk.injEq] at hrun
            rw [← hrun.1]
            exact happend ys zs hys (ih (.star hp hnil happend) (by rw [h₂]))
    | @ahead p P hnil =>
      rcases h₁ : g.run fuel p pos far with ⟨_ | ⟨ys, mid⟩, far₁⟩
      · simp [run, h₁] at hrun
      · simp only [run, h₁, Option.some.injEq, Prod.mk.injEq] at hrun
        rwa [← hrun.1]
    | @absent p P hnil =>
      rcases h₁ : g.run fuel p pos far with ⟨_ | ⟨ys, mid⟩, far₁⟩
      · simp only [run, h₁, Option.some.injEq, Prod.mk.injEq] at hrun
        rwa [← hrun.1]
      · simp [run, h₁] at hrun
    | @build f p P Q hp hf =>
      rcases h₁ : g.run fuel p pos far with ⟨_ | ⟨ys, mid⟩, far₁⟩
      · simp [run, h₁] at hrun
      · cases h₂ : f ys with
        | none => simp [run, h₁, h₂] at hrun
        | some zs =>
          simp only [run, h₁, h₂, Option.some.injEq, Prod.mk.injEq] at hrun
          rw [← hrun.1]
          exact hf ys zs (ih hp (by rw [h₁])) h₂

theorem run_yields {T : τ → α → Prop} {R : ν → α → Prop}
    (hterminals : ∀ t pos xs next, g.step t pos = some (xs, next) → ∀ x ∈ xs, T t x)
    (hrules : ∀ r, (g.rules r).Yields T R (R r)) {fuel : Nat} {p : Peg τ ν α} {P : α → Prop} (h : p.Yields T R P)
    {pos far next : Nat} {xs : List α} (hrun : (g.run fuel p pos far).result = some (xs, next)) : ∀ x ∈ xs, P x :=
  run_gives hterminals (fun r => (hrules r).gives) h.gives hrun

end Grammar

end ConfigCoverage
