import ConfigCoverage.Java.Parser
import ConfigCoverage.Proofs.GrammarYields

/-!
# The shapes of Java trees

The clauses of a compound statement stand below it or below another of its clauses, and the resources of a `try` in
their specification; neither stands anywhere else. This is all that the order of the statements of a method depends on.

* `Node.Shaped`: the shapes.
* `makes_node`, `makes_suffixed`, `makes_operandNode`: the ways to build nodes keep them.
* `parseTree_shaped`: every tree of a source text has them.
-/

namespace ConfigCoverage.Java

/-! ## Shapes -/

/-- What stands only inside a compound statement: its clauses, and the resources of a `try`. -/
def Kind.isPart (k : Kind) : Bool := k.isClause || k == .resourceSpecification || k == .resource

/-- May a node of the kind `child` be a child of one of the kind `parent`? -/
def Kind.mayHold (parent child : Kind) : Bool :=
  if parent = .resourceSpecification then child == .resource || child == .token || child == .comment
  else if parent.isCompound || parent.isClause then child != .resource
  else !child.isPart

/-- Every part of a compound statement in the tree is where it may be. -/
inductive Node.Shaped : Node → Prop
  | leaf (kind : Kind) (label : Option Label) (piece : Piece) : Shaped (.leaf kind label piece)
  | branch {kind : Kind} {label : Option Label} {children : List Node} :
    (∀ c ∈ children, kind.mayHold c.kind = true) → (∀ c ∈ children, Shaped c) → Shaped (.branch kind label children)

/-- A tree that may stand below a node of the kind `parent`. -/
def Node.ShapedBelow (parent : Kind) (n : Node) : Prop := n.Shaped ∧ parent.mayHold n.kind = true

namespace Kind

variable {parent child : Kind}

theorem mayHold_comment (parent : Kind) : parent.mayHold .comment = true := by cases parent <;> rfl

/-- What is no part of a compound statement may stand anywhere but among resources. -/
theorem mayHold_of_not_isPart (hp : parent ≠ .resourceSpecification) (hc : child.isPart = false) :
    parent.mayHold child = true := by
  unfold mayHold
  rw [if_neg hp]
  by_cases h : (parent.isCompound || parent.isClause) = true
  · rw [if_pos h, bne_iff_ne]
    rintro rfl
    cases hc
  · rw [if_neg h, hc]
    rfl

theorem not_isPart_of_mayHold (h : parent.mayHold child = true) (hp : parent ≠ .resourceSpecification)
    (hparts : (parent.isCompound || parent.isClause) = false) : child.isPart = false := by
  unfold mayHold at h
  rw [if_neg hp, hparts] at h
  simpa using h

theorem ne_resource_of_mayHold (h : parent.mayHold child = true)
    (hparts : (parent.isCompound || parent.isClause) = true) : child ≠ .resource := by
  rintro rfl
  have hp : parent ≠ .resourceSpecification := by
    rintro rfl
    cases hparts
  unfold mayHold at h
  rw [if_neg hp, if_pos hparts] at h
  cases h

theorem mayHold_of_mayHold_other (hp : parent ≠ .resourceSpecification) (h : other.mayHold child = true) :
    parent.mayHold child = true :=
  mayHold_of_not_isPart hp (not_isPart_of_mayHold h nofun rfl)

theorem ne_resourceSpecification_of_mayHold_other (h : other.mayHold child = true) :
    child ≠ .resourceSpecification := by
  rintro rfl
  cases h

end Kind

namespace Node

variable {parent : Kind} {n : Node} {ns : List Node}

theorem kind_withLabel (l : Option Label) (n : Node) : (n.withLabel l).kind = n.kind := by cases n <;> rfl

theorem label_withLabel (l : Option Label) (n : Node) : (n.withLabel l).label = l := by cases n <;> rfl

theorem Shaped.withLabel (h : n.Shaped) (l : Option Label) : (n.withLabel l).Shaped := by
  cases h with
  | leaf kind _ piece => exact .leaf kind l piece
  | branch hkinds hshaped => exact .branch hkinds hshaped

theorem ShapedBelow.withLabel (h : n.ShapedBelow parent) (l : Option Label) : (n.withLabel l).ShapedBelow parent :=
  ⟨h.1.withLabel l, by rw [kind_withLabel]; exact h.2⟩

theorem shaped_branch {kind : Kind} {label : Option Label} (h : ∀ c ∈ ns, ShapedBelow kind c) :
    (branch kind label ns).Shaped :=
  .branch (fun c hc => (h c hc).2) (fun c hc => (h c hc).1)

mutual

/-- Does a tree have the shapes? -/
def isShaped : Node → Bool
  | leaf _ _ _ => true
  | branch kind _ cs => allShaped kind cs

/-- May all the trees stand below a node of the kind `parent`? -/
def allShaped (parent : Kind) : List Node → Bool
  | [] => true
  | c :: cs => c.isShaped && parent.mayHold c.kind && allShaped parent cs

end

theorem allShaped_eq_true_iff {cs : List Node} (h : ∀ c ∈ cs, c.isShaped = true ↔ c.Shaped) :
    allShaped parent cs = true ↔ ∀ c ∈ cs, c.ShapedBelow parent := by
  induction cs with
  | nil => simp [allShaped]
  | cons c cs ih =>
    obtain ⟨hc, hcs⟩ := List.forall_mem_cons.1 h
    rw [allShaped, Bool.and_eq_true, Bool.and_eq_true, ih hcs, List.forall_mem_cons, hc, ShapedBelow]

theorem isShaped_iff (n : Node) : n.isShaped = true ↔ n.Shaped := by
  cases n with
  | leaf kind label piece => exact iff_of_true rfl (.leaf kind label piece)
  | branch kind label cs =>
    rw [isShaped, allShaped_eq_true_iff fun c _ => isShaped_iff c]
    refine ⟨shaped_branch, fun h => ?_⟩
    cases h with
    | branch hkinds hshaped => exact fun c hc => ⟨hshaped c hc, hkinds c hc⟩

instance : DecidablePred Shaped := fun n => decidable_of_iff _ (isShaped_iff n)

end Node

/-! ## Building -/

/-- The kind of the token that a terminal matches. -/
def Terminal.kind : Terminal → Kind
  | .word _ kind | .literal _ kind => kind
  | .name _ => .identifier
  | _ => .token

/-- A terminal matches a token of its kind and the comments before it. -/
def Terminal.Matches (t : Terminal) (n : Node) : Prop :=
  ∃ kind piece, n = .leaf kind none piece ∧ (kind = .comment ∨ kind = t.kind)

/-- All nodes of a parsing expression may stand below a node of the kind `parent`. Those of a rule are no parts of a
compound statement. -/
def Makes (parent : Kind) (p : Syn) : Prop :=
  p.Yields Terminal.Matches (fun _ => Node.ShapedBelow .other) (Node.ShapedBelow parent)

variable {parent kind : Kind} {p : Syn}

theorem makes_terminal {t : Terminal} (h : parent.mayHold t.kind = true) : Makes parent (.terminal t) := by
  refine .terminal fun n hn => ?_
  obtain ⟨kind, piece, rfl, rfl | rfl⟩ := hn
  · exact ⟨.leaf _ _ _, parent.mayHold_comment⟩
  · exact ⟨.leaf _ _ _, h⟩

theorem makes_rule {r : Rule} (h : parent.mayHold .other = true) : Makes parent (.rule r) :=
  .rule fun _ hn => ⟨hn.1, Kind.mayHold_of_mayHold_other (by rintro rfl; cases h) hn.2⟩

theorem shapedBelow_wrapNodes {ns : List Node} (h : ∀ n ∈ ns, n.ShapedBelow kind) (hk : parent.mayHold kind = true) :
    ∀ n ∈ wrapNodes kind ns, n.ShapedBelow parent := by
  intro n hn
  rcases List.mem_append.1 hn with hn | hn
  · have hc : n.isComment = true := List.all_eq_true.1 List.all_takeWhile n hn
    have hkind : n.kind = .comment := by simpa [Node.isComment] using hc
    exact ⟨(h n (List.takeWhile_sublist _ |>.subset hn)).1, by rw [hkind]; exact parent.mayHold_comment⟩
  · rw [List.mem_singleton.1 hn]
    exact ⟨Node.shaped_branch fun c hc => h c (List.dropWhile_sublist _ |>.subset hc), hk⟩

theorem makes_node (h : Makes kind p) (hk : parent.mayHold kind = true) : Makes parent (node kind p) :=
  .build h fun _ _ hns hf => Option.some.inj hf ▸ shapedBelow_wrapNodes hns hk

theorem makes_label {l : Label} (h : Makes parent p) : Makes parent (label l p) := by
  refine .build h fun ns ns' hns hf n hn => ?_
  rw [← Option.some.inj hf] at hn
  obtain ⟨m, hm, rfl⟩ := List.mem_map.1 hn
  split
  · exact hns m hm
  · exact (hns m hm).withLabel _

theorem makes_onlyKinds {kinds : List Kind} (h : Makes parent p) : Makes parent (onlyKinds kinds p) := by
  refine .build h fun ns ns' hns hf => ?_
  obtain ⟨-, hf⟩ := Option.ite_none_right_eq_some.1 hf
  rw [← Option.some.inj hf]
  exact hns

theorem makes_collapse (h : Makes .other p) : Makes .other (collapse p) := by
  refine .build h fun ns ns' hns hf => ?_
  rw [← Option.some.inj hf]
  split
  · exact hns
  · exact shapedBelow_wrapNodes hns rfl

/-- A suffix takes what it follows in front of its own children. -/
theorem shapedBelow_attachSuffix {before : List Node} {suffix base : Node}
    (hbefore : ∀ n ∈ before, n.ShapedBelow .other) (hsuffix : suffix.ShapedBelow .other)
    (hbase : base.ShapedBelow .other) : (attachSuffix before [suffix] base).ShapedBelow .other := by
  cases suffix with
  | leaf k l piece =>
    refine ⟨Node.shaped_branch ?_, rfl⟩
    simpa [hbase, or_imp, forall_and] using ⟨hbefore, hsuffix⟩
  | branch k l cs =>
    obtain ⟨hshaped, hk⟩ := hsuffix
    have hne := Kind.ne_resourceSpecification_of_mayHold_other hk
    have hbelow : ∀ n : Node, n.ShapedBelow .other → n.ShapedBelow k := fun n hn =>
      ⟨hn.1, Kind.mayHold_of_mayHold_other hne hn.2⟩
    cases hshaped with
    | branch hkinds hchildren =>
      refine ⟨Node.shaped_branch fun c hc => ?_, hk⟩
      rcases List.mem_cons.1 hc with rfl | hc
      · split
        · exact hbelow _ (hbase.withLabel _)
        · exact hbelow _ hbase
      · rcases List.mem_append.1 hc with hc | hc
        · exact hbelow c (hbefore c hc)
        · exact ⟨hchildren c hc, hkinds c hc⟩

theorem shapedBelow_attachSuffixes {waiting ns : List Node} {base : Node}
    (hwaiting : ∀ n ∈ waiting, n.ShapedBelow .other) (hns : ∀ n ∈ ns, n.ShapedBelow .other)
    (hbase : base.ShapedBelow .other) : (attachSuffixes base waiting ns).ShapedBelow .other := by
  induction ns generalizing base waiting with
  | nil => exact hbase
  | cons n ns ih =>
    obtain ⟨hn, hns⟩ := List.forall_mem_cons.1 hns
    unfold attachSuffixes
    split
    · exact ih (List.forall_mem_cons.2 ⟨hn, hwaiting⟩) hns hbase
    · have hwaiting' : ∀ m ∈ waiting.reverse, m.ShapedBelow .other := fun m hm => hwaiting m (List.mem_reverse.1 hm)
      exact ih (by simp) hns (shapedBelow_attachSuffix hwaiting' hn hbase)

theorem makes_suffixed (h : Makes .other p) : Makes .other (suffixed p) := by
  refine .build h fun ns ns' hns hf => ?_
  have hrest : ∀ n ∈ ns.dropWhile Node.isComment, n.ShapedBelow .other := fun n hn =>
    hns n (List.dropWhile_sublist _ |>.subset hn)
  cases hd : ns.dropWhile Node.isComment with
  | nil => simp [hd] at hf
  | cons base suffixes =>
    simp only [hd, Option.some.injEq] at hf
    rw [hd] at hrest
    obtain ⟨hbase, hsuffixes⟩ := List.forall_mem_cons.1 hrest
    rw [← hf, List.forall_mem_append, List.forall_mem_singleton]
    exact ⟨fun n hn => hns n (List.takeWhile_sublist _ |>.subset hn),
      shapedBelow_attachSuffixes (by simp) hsuffixes hbase⟩

theorem makes_operandNode (h : Makes .other p) : Makes .other (operandNode p) := by
  refine .build h fun ns ns' hns hf => ?_
  have hrest : ∀ n ∈ ns.dropWhile Node.isComment, n.ShapedBelow .other := fun n hn =>
    hns n (List.dropWhile_sublist _ |>.subset hn)
  split at hf
  · cases hf
  · rw [← Option.some.inj hf]
    exact hns
  · next base rest _ hd =>
    rw [hd] at hrest
    obtain ⟨hbase, hrest⟩ := List.forall_mem_cons.1 hrest
    split at hf
    · split at hf
      · rw [← Option.some.inj hf, List.forall_mem_append, List.forall_mem_singleton]
        refine ⟨fun n hn => hns n (List.takeWhile_sublist _ |>.subset hn), Node.shaped_branch ?_, rfl⟩
        exact List.forall_mem_cons.2 ⟨hbase.withLabel _, hrest⟩
      · cases hf
    · rw [← Option.some.inj hf]
      exact shapedBelow_wrapNodes hns rfl

/-! ## Rules -/

/-- The proof goes down each expression; what is left at its terminals and nodes are kinds that hold each other. -/
theorem makes_rules (r : Rule) : Makes .other (rules r) := by
  cases r
  all_goals
    repeat first
      | apply makes_terminal
      | apply makes_rule
      | apply Peg.Yields.seq
      | apply Peg.Yields.alt
      | apply makes_node
      | apply makes_label
      | rfl
      | exact Peg.Yields.empty
      | exact Peg.Yields.ahead
      | exact Peg.Yields.absent
      | apply Peg.Yields.star
      | apply makes_onlyKinds
      | apply makes_collapse
      | apply makes_suffixed
      | apply makes_operandNode

/-! ## Trees -/

theorem matches_of_take {t : Terminal} {token : Token} {ok : Bool} {pos next : Nat} {ns : List Node}
    (h : (if ok then some (tokenNodes t.kind token, pos + 1) else none) = some (ns, next)) : ∀ n ∈ ns, t.Matches n := by
  obtain ⟨-, h⟩ := Option.ite_none_right_eq_some.1 h
  cases h
  intro n hn
  rcases List.mem_append.1 hn with hn | hn
  · obtain ⟨piece, -, rfl⟩ := List.mem_map.1 hn
    exact ⟨.comment, piece, rfl, .inl rfl⟩
  · exact ⟨t.kind, token.piece, List.mem_singleton.1 hn, .inr rfl⟩

theorem stepToken_matches {tokens : Array Token} {t : Terminal} {pos next : Nat} {ns : List Node}
    (h : stepToken tokens t pos = some (ns, next)) : ∀ n ∈ ns, t.Matches n := by
  unfold stepToken at h
  cases htoken : tokens[pos]? with
  | none => simp [htoken] at h
  | some token =>
    simp only [htoken] at h
    cases t with
    | parenthesized =>
      obtain ⟨-, h⟩ := Option.ite_none_right_eq_some.1 h
      obtain ⟨last, -, hlast⟩ := Option.map_eq_some_iff.1 h
      cases hlast
      simp
    | _ => exact matches_of_take h

/-- Every tree of a source text has the shapes. -/
theorem parseTree_shaped {source : String} {root : Node} (h : parseTree source = .ok root) : root.Shaped := by
  unfold parseTree at h
  cases hts : tokens source with
  | error row => simp [hts] at h
  | ok ts =>
    simp only [hts] at h
    rcases hparse : (grammar ts.toArray).parse ts.toArray.size .program with ⟨_ | ⟨nodes, last⟩, far⟩
    · simp only [hparse, reduceCtorEq] at h
    · simp only [hparse, Except.ok.injEq] at h
      rw [← h]
      have hrule : Makes .program (.rule .program) := makes_rule rfl
      have hnodes : ∀ n ∈ nodes, n.ShapedBelow .program :=
        Grammar.run_yields (fun _ _ _ _ => stepToken_matches) makes_rules hrule (congrArg Parsed.result hparse)
      exact Node.shaped_branch hnodes

end ConfigCoverage.Java
