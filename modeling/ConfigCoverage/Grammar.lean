/-!
# Parsing expression grammars

A grammar gives each rule name a parsing expression over terminals. Running an expression on an input consumes a stretch
of it and gives a list of values; the choice is ordered and takes the first alternative that succeeds.

The run is bounded by fuel, one unit for each expression on the way down. Where a rule calls itself only after it has
consumed a terminal, a fixed multiple of the input's length is enough. `fuelFor` is one, for grammars that go down no
more than 2000 expressions between two terminals.
-/

namespace ConfigCoverage

/-- A parsing expression over terminals `τ` and rule names `ν` with values in `α`. -/
inductive Peg (τ ν α : Type) where
  /-- Succeed, and consume nothing. -/
  | empty
  | terminal (t : τ)
  | rule (n : ν)
  | seq (p q : Peg τ ν α)
  /-- The first of the two that succeeds. -/
  | alt (p q : Peg τ ν α)
  /-- As often as possible. -/
  | star (p : Peg τ ν α)
  /-- Succeed where `p` does, and consume nothing. -/
  | ahead (p : Peg τ ν α)
  /-- Succeed where `p` fails, and consume nothing. -/
  | absent (p : Peg τ ν α)
  /-- Turn the values of `p` into others, or refuse them. -/
  | build (f : List α → Option (List α)) (p : Peg τ ν α)

namespace Peg

variable {τ ν α : Type}

/-- All of `ps`, one after the other. -/
def all : List (Peg τ ν α) → Peg τ ν α
  | [] => .empty
  | [p] => p
  | p :: q :: ps => .seq p (all (q :: ps))

/-- Never succeeds. -/
def refuse : Peg τ ν α := .absent .empty

/-- The first of `ps` that succeeds. -/
def oneOf : List (Peg τ ν α) → Peg τ ν α
  | [] => refuse
  | [p] => p
  | p :: q :: ps => .alt p (oneOf (q :: ps))

/-- `p` or nothing. -/
def opt (p : Peg τ ν α) : Peg τ ν α := .alt p .empty

/-- At least one `p`. -/
def some (p : Peg τ ν α) : Peg τ ν α := .seq p (.star p)

/-- At least one `p`, with `sep` between neighbours. -/
def sepBy1 (p sep : Peg τ ν α) : Peg τ ν α := .seq p (.star (.seq sep p))

/-- Any number of `p`, with `sep` between neighbours. -/
def sepBy (p sep : Peg τ ν α) : Peg τ ν α := opt (sepBy1 p sep)

/-- Any number of `p` with `sep` between neighbours, and perhaps one more at the end. -/
def sepByTrailing (p sep : Peg τ ν α) : Peg τ ν α := .seq (sepBy p sep) (opt sep)

end Peg

/-- The state of a run: what was read and where the run stands, or a failure; and the farthest place that was tried. -/
structure Parsed (α : Type) where
  result : Option (List α × Nat)
  farthest : Nat

/-- A grammar: an expression for each rule, and what a terminal matches at a place of the input. -/
structure Grammar (τ ν α : Type) where
  rules : ν → Peg τ ν α
  step : τ → Nat → Option (List α × Nat)

namespace Grammar

variable {τ ν α : Type}

/-- Run an expression at `pos`. -/
def run (g : Grammar τ ν α) : Nat → Peg τ ν α → Nat → Nat → Parsed α
  | 0, _, _, far => ⟨none, far⟩
  | _ + 1, .empty, pos, far => ⟨some ([], pos), far⟩
  | _ + 1, .terminal t, pos, far => ⟨g.step t pos, max far pos⟩
  | n + 1, .rule r, pos, far => g.run n (g.rules r) pos far
  | n + 1, .seq p q, pos, far =>
    match g.run n p pos far with
    | ⟨none, far⟩ => ⟨none, far⟩
    | ⟨some (xs, pos), far⟩ =>
      match g.run n q pos far with
      | ⟨none, far⟩ => ⟨none, far⟩
      | ⟨some (ys, pos), far⟩ => ⟨some (xs ++ ys, pos), far⟩
  | n + 1, .alt p q, pos, far =>
    match g.run n p pos far with
    | ⟨none, far⟩ => g.run n q pos far
    | r => r
  | n + 1, .star p, pos, far =>
    match g.run n p pos far with
    | ⟨none, far⟩ => ⟨some ([], pos), far⟩
    | ⟨some (xs, next), far⟩ =>
      if next ≤ pos then ⟨some ([], pos), far⟩
      else
        match g.run n (.star p) next far with
        | ⟨none, far⟩ => ⟨some (xs, next), far⟩
        | ⟨some (ys, pos), far⟩ => ⟨some (xs ++ ys, pos), far⟩
  | n + 1, .ahead p, pos, far =>
    match g.run n p pos far with
    | ⟨none, far⟩ => ⟨none, far⟩
    | ⟨some _, far⟩ => ⟨some ([], pos), far⟩
  | n + 1, .absent p, pos, far =>
    match g.run n p pos far with
    | ⟨none, far⟩ => ⟨some ([], pos), far⟩
    | ⟨some _, far⟩ => ⟨none, far⟩
  | n + 1, .build f p, pos, far =>
    match g.run n p pos far with
    | ⟨none, far⟩ => ⟨none, far⟩
    | ⟨some (xs, pos), far⟩ =>
      match f xs with
      | none => ⟨none, far⟩
      | some ys => ⟨some (ys, pos), far⟩

/-- Enough fuel for an input of `size` places, if a run goes down no more than 2000 expressions between two of them. -/
def fuelFor (size : Nat) : Nat := 2000 * (size + 2)

/-- Run a rule from the start of an input of `size` places. -/
def parse (g : Grammar τ ν α) (size : Nat) (start : ν) : Parsed α := g.run (fuelFor size) (.rule start) 0 0

end Grammar

end ConfigCoverage
