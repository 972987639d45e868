/-!
# Patterns of text

A pattern is a regular expression over single characters and over assertions on the characters around a place.

* `Pattern.reach`: the places where a match that starts at one of some places can end.
* `Pattern.occursIn`, `Pattern.matchesAll`: does a text hold a match, or is it one as a whole?
-/

namespace ConfigCoverage

/-- A pattern. -/
inductive Pattern where
  | empty
  /-- One character that satisfies `p`. -/
  | char (p : Char → Bool)
  /-- A place; `p` looks at the characters before and after it. -/
  | look (p : Option Char → Option Char → Bool)
  | seq (a b : Pattern)
  | alt (a b : Pattern)
  /-- At least `min` times, and at most `max` times if it is given. -/
  | repeated (p : Pattern) (min : Nat) (max : Option Nat)

namespace Pattern

/-- Apply `f` to a set of places `n` times. -/
def iterate (f : List Nat → List Nat) : Nat → List Nat → List Nat
  | 0, places => places
  | n + 1, places => if places.isEmpty then [] else iterate f n (f places)

/-- Places together, none twice. -/
def joinPlaces (a b : List Nat) : List Nat := a ++ b.filter fun n => !a.contains n

/-- Apply `f` to a set of places up to `n` times, as long as it gives new ones. -/
def spread (f : List Nat → List Nat) : Nat → List Nat → List Nat
  | 0, places => places
  | n + 1, places =>
    let next := joinPlaces places (f places)
    if next.length = places.length then places else spread f n next

/-- The characters before and after a place. -/
def around (text : Array Char) (place : Nat) : Option Char × Option Char :=
  (if place = 0 then none else text[place - 1]?, text[place]?)

/-- The places where a match that starts at one of `places` can end. New places come up at most as often as the text
has places, which bounds a repetition without end. -/
def reach (text : Array Char) : Pattern → List Nat → List Nat
  | .empty, places => places
  | .char p, places => (places.filter fun n => (text[n]?).any p).map (· + 1)
  | .look p, places => places.filter fun n => p (around text n).1 (around text n).2
  | .seq a b, places => b.reach text (a.reach text places)
  | .alt a b, places => joinPlaces (a.reach text places) (b.reach text places)
  | .repeated p min max, places =>
    let start := iterate (p.reach text) min places
    match max with
    | none => spread (p.reach text) (text.size + 1) start
    | some max => spread (p.reach text) (max - min) start

/-- Does a text hold a match? -/
def occursIn (p : Pattern) (text : String) : Bool :=
  let chars := text.toList.toArray
  !(p.reach chars (List.range (chars.size + 1))).isEmpty

/-- Is a text as a whole a match? -/
def matchesAll (p : Pattern) (text : Array Char) : Bool := (p.reach text [0]).contains text.size

/-- All of `ps`, one after the other. -/
def all : List Pattern → Pattern
  | [] => .empty
  | [p] => p
  | p :: ps => .seq p (all ps)

/-- As often as one likes. -/
def star (p : Pattern) : Pattern := .repeated p 0 none

end Pattern

end ConfigCoverage
