import ConfigCoverage.Java.Lowering

/-!
# Layout

The rows of a text and the blanks before a node have no part in what the node is lowered to. Blanks inside a node may
have one, for an expression of no further interest is kept as it is written.

* `Node.unplaced`: the node without its rows, and without the blanks before it.
* `lowerExpr_congr`: what an expression is read off.
* `lowerExpr_unplaced`: expressions are the same wherever they stand.
-/

namespace ConfigCoverage.Java

namespace Node

mutual

/-- The node without rows. If it comes `first`, it is also without the gap before it. -/
def unplaced (first : Bool) : Node → Node
  | leaf k l p => leaf k l ⟨if first then "" else p.gap, p.text, 0⟩
  | branch k l cs => branch k l (unplacedAll first cs)

/-- Nodes in a row without rows. If they come `first`, the first of them is also without the gap before it. -/
def unplacedAll (first : Bool) : List Node → List Node
  | [] => []
  | c :: cs => c.unplaced first :: unplacedAll false cs

end

variable {α : Type} (first : Bool)

@[simp] theorem kind_unplaced (n : Node) : (n.unplaced first).kind = n.kind := by cases n <;> rfl

@[simp] theorem label_unplaced (n : Node) : (n.unplaced first).label = n.label := by cases n <;> rfl

mutual

theorem spaced_unplaced : ∀ n : Node, (n.unplaced false).spaced = n.spaced
  | leaf _ _ _ => rfl
  | branch _ _ cs => spacedAll_unplacedAll cs

theorem spacedAll_unplacedAll : ∀ cs : List Node, spacedAll (unplacedAll false cs) = spacedAll cs
  | [] => rfl
  | c :: cs => by rw [unplacedAll, spacedAll, spacedAll, spaced_unplaced c, spacedAll_unplacedAll cs]

end

mutual

/-- The text of a node begins with its first leaf, after the gap. -/
@[simp] theorem text_unplaced : ∀ (first : Bool) (n : Node), (n.unplaced first).text = n.text
  | _, leaf _ _ _ => rfl
  | first, branch _ _ cs => textAll_unplacedAll first cs

theorem textAll_unplacedAll : ∀ (first : Bool) (cs : List Node), textAll (unplacedAll first cs) = textAll cs
  | _, [] => rfl
  | first, c :: cs => by rw [unplacedAll, textAll, textAll, text_unplaced first c, spacedAll_unplacedAll]

end

/-- What is the same for a node wherever it stands is the same for the first node of a label. -/
theorem map_find?_unplacedAll {f : Node → α} {p : Node → Bool} (hf : ∀ first n, f (n.unplaced first) = f n)
    (hp : ∀ first n, p (n.unplaced first) = p n) (cs : List Node) :
    ((unplacedAll first cs).find? p).map f = (cs.find? p).map f := by
  induction cs generalizing first with
  | nil => rfl
  | cons c cs ih =>
    rw [unplacedAll, List.find?_cons, List.find?_cons, hp]
    cases p c with
    | true => exact congrArg some (hf first c)
    | false => exact ih false

theorem filterMap_filter_unplacedAll {f g : Node → Option α} {p : Node → Bool}
    (hf : ∀ first n, f (n.unplaced first) = g n) (hp : ∀ first n, p (n.unplaced first) = p n) (cs : List Node) :
    ((unplacedAll first cs).filter p).filterMap f = (cs.filter p).filterMap g := by
  induction cs generalizing first with
  | nil => rfl
  | cons c cs ih =>
    rw [unplacedAll, List.filter_cons, List.filter_cons, hp]
    split
    · rw [List.filterMap_cons, List.filterMap_cons, hf, ih]
    · exact ih false

theorem map_child?_unplaced {f : Node → α} (n : Node) (hf : ∀ first n, f (n.unplaced first) = f n) (l : Label) :
    ((n.unplaced first).child? l).map f = (n.child? l).map f := by
  cases n with
  | leaf => rfl
  | branch k l' cs => exact map_find?_unplacedAll first hf (fun first n => by rw [label_unplaced]) cs

end Node

/-! ## Expressions -/

theorem map_eq_map_cases {α β : Type} {f : α → β} {a b : Option α} (h : a.map f = b.map f) :
    (a = none ∧ b = none) ∨ ∃ x y, a = some x ∧ b = some y ∧ f x = f y := by
  cases a <;> cases b <;> simp_all

/-- What an expression is read off: its text, the texts of its type, name and field, and the expressions below it. -/
theorem lowerExpr_congr {k : Kind} {l : Option Label} {cs cs' : List Node}
    (htext : (Node.branch k l cs).text = (Node.branch k l cs').text)
    (hlabels : ∀ label, ((Node.branch k l cs).child? label).map Node.text =
      ((Node.branch k l cs').child? label).map Node.text)
    (hfirst : lowerFirst cs = lowerFirst cs') (hobject : lowerLabeled .object cs = lowerLabeled .object cs')
    (hall : lowerAll cs = lowerAll cs') (harguments : lowerArguments cs = lowerArguments cs')
    (hvalues : lowerValues cs = lowerValues cs') :
    lowerExpr (.branch k l cs) = lowerExpr (.branch k l cs') := by
  cases k
  case objectCreation =>
    rcases map_eq_map_cases (hlabels .type) with ⟨h, h'⟩ | ⟨t, t', h, h', ht⟩
    · simp only [lowerExpr, h, h', htext]
    · simp only [lowerExpr, h, h', ht, harguments]
  case methodInvocation =>
    rcases map_eq_map_cases (hlabels .name) with ⟨h, h'⟩ | ⟨t, t', h, h', ht⟩
    · simp only [lowerExpr, h, h', htext]
    · simp only [lowerExpr, h, h', ht, hobject, harguments]
  case fieldAccess =>
    rcases map_eq_map_cases (hlabels .field) with ⟨h, h'⟩ | ⟨t, t', h, h', ht⟩
    · simp only [lowerExpr, h, h', hobject, htext]
    · simp only [lowerExpr, h, h', hobject, htext]
      cases lowerLabeled .object cs' <;> simp only [ht]
  all_goals simp only [lowerExpr, hfirst, hall, hvalues, htext, Kind.literal?]

mutual

theorem lowerExpr_unplaced : ∀ (first : Bool) (n : Node), lowerExpr (n.unplaced first) = lowerExpr n
  | _, .leaf _ _ _ => rfl
  | first, .branch _ _ cs =>
    lowerExpr_congr (Node.text_unplaced first (.branch _ _ cs))
      (Node.map_child?_unplaced first (.branch _ _ cs) Node.text_unplaced) (lowerFirst_unplacedAll first cs)
      (lowerLabeled_unplacedAll .object first cs) (lowerAll_unplacedAll first cs) (lowerArguments_unplacedAll first cs)
      (lowerValues_unplacedAll first cs)

theorem lowerFirst_unplacedAll : ∀ (first : Bool) (cs : List Node),
    lowerFirst (Node.unplacedAll first cs) = lowerFirst cs
  | _, [] => rfl
  | first, c :: cs => by
    rw [Node.unplacedAll, lowerFirst, lowerFirst, Node.isNamed, Node.kind_unplaced, ← Node.isNamed,
      lowerExpr_unplaced first c, lowerFirst_unplacedAll false cs]

theorem lowerLabeled_unplacedAll (l : Label) : ∀ (first : Bool) (cs : List Node),
    lowerLabeled l (Node.unplacedAll first cs) = lowerLabeled l cs
  | _, [] => rfl
  | first, c :: cs => by
    rw [Node.unplacedAll, lowerLabeled, lowerLabeled, Node.label_unplaced, lowerExpr_unplaced first c,
      lowerLabeled_unplacedAll l false cs]

theorem lowerAll_unplacedAll : ∀ (first : Bool) (cs : List Node), lowerAll (Node.unplacedAll first cs) = lowerAll cs
  | _, [] => rfl
  | first, c :: cs => by
    rw [Node.unplacedAll, lowerAll, lowerAll, Node.isNamed, Node.isComment, Node.kind_unplaced, ← Node.isNamed,
      ← Node.isComment, lowerExpr_unplaced first c, lowerAll_unplacedAll false cs]

theorem lowerArguments_unplacedAll : ∀ (first : Bool) (cs : List Node),
    lowerArguments (Node.unplacedAll first cs) = lowerArguments cs
  | _, [] => rfl
  | first, c :: cs => by
    rw [Node.unplacedAll, lowerArguments, lowerArguments, Node.label_unplaced, lowerItems_unplaced first c,
      lowerArguments_unplacedAll false cs]

theorem lowerValues_unplacedAll : ∀ (first : Bool) (cs : List Node),
    lowerValues (Node.unplacedAll first cs) = lowerValues cs
  | _, [] => rfl
  | first, c :: cs => by
    rw [Node.unplacedAll, lowerValues, lowerValues, Node.label_unplaced, lowerItems_unplaced first c,
      lowerValues_unplacedAll false cs]

theorem lowerItems_unplaced : ∀ (first : Bool) (n : Node), lowerItems (n.unplaced first) = lowerItems n
  | _, .leaf _ _ _ => rfl
  | first, .branch _ _ cs => lowerAll_unplacedAll first cs

end

/-- What an expression statement is read off: the expression, or the operator and the two sides of an assignment. -/
theorem lowerExprStmt_eq (e : Node) :
    lowerExprStmt e =
      if e.kind = .assignment then
        if ((e.child? .operator).map Node.text).getD "=" = "=" then
          (((e.child? .left).map lowerExpr).bind fun target =>
            ((e.child? .right).map lowerExpr).map fun value => .assign target value).getD .other
        else .other
      else .expr (lowerExpr e) := by
  unfold lowerExprStmt
  split
  · split
    · next left right hoperator hleft hright => simp [hoperator, hleft, hright]
    · next h =>
      split
      · next hoperator =>
        cases hleft : e.child? .left with
        | none => rfl
        | some left =>
          cases hright : e.child? .right with
          | none => rfl
          | some right => exact absurd hright (h left right hoperator hleft)
      · rfl
  · rfl

theorem lowerExprStmt_unplaced (first : Bool) (e : Node) : lowerExprStmt (e.unplaced first) = lowerExprStmt e := by
  rw [lowerExprStmt_eq, lowerExprStmt_eq, Node.kind_unplaced, lowerExpr_unplaced,
    e.map_child?_unplaced first Node.text_unplaced, e.map_child?_unplaced first lowerExpr_unplaced,
    e.map_child?_unplaced first lowerExpr_unplaced]

end ConfigCoverage.Java
