import ConfigCoverage.Proofs.JavaShapes

/-!
# The forms of Java trees

Some children of a node are read as one word or as a node of one kind, and an expression statement is read off its first
child. Every tree of a source text is so formed that this is right.

* `Kind.formed`: the forms.
* `forms_node`, `forms_suffixed`, `forms_operandNode`: the ways to build nodes keep them.
* `parseTree_formed`: every tree of a source text has them.
-/

namespace ConfigCoverage.Java

/-! ## Forms -/

/-- Are the nodes of a kind more than tokens, and no comments? -/
def Kind.isContent : Kind → Bool
  | .token | .comment => false
  | _ => true

namespace Node

mutual

/-- Does every node of a tree with children have a property of its kind and its children? -/
def every (p : Kind → List Node → Bool) : Node → Bool
  | leaf _ _ _ => true
  | branch kind _ cs => p kind cs && everyAll p cs

/-- Does every node of the trees have the property? -/
def everyAll (p : Kind → List Node → Bool) : List Node → Bool
  | [] => true
  | c :: cs => c.every p && everyAll p cs

end

/-- Is the node a single token? -/
def isLeaf : Node → Bool
  | leaf _ _ _ => true
  | branch _ _ _ => false

/-- Is a node more than a token, and no comment? -/
def isContent (n : Node) : Bool := n.kind.isContent

/-- Is the first of the nodes that is more than a token a comment? -/
def opensWithComment (cs : List Node) : Bool := (cs.find? isNamed).any isComment

end Node

/-- May the node be a child of one of the kind `parent`? A name is a word, but that of an annotation may have dots; a
field and an operator are words; the body of a method is a block, and a declarator is one of a variable. -/
def Kind.fits (parent : Kind) (c : Node) : Bool :=
  match c.label with
  | some .name => c.isLeaf || parent == .simpleMarker || parent == .argumentMarker
  | some .field => c.isLeaf
  | some .operator => c.kind == .token
  | some .body => parent != .methodDeclaration || c.kind == .block
  | some .declarator => c.kind == .variableDeclarator
  | _ => true

/-- Do all children fit, and does an expression statement begin with its expression? -/
def Kind.formed (kind : Kind) (cs : List Node) : Bool :=
  cs.all kind.fits && (kind != .expressionStatement || !Node.opensWithComment cs)

namespace Node

variable {p : Kind → List Node → Bool} {n : Node}

theorem everyAll_eq_true_iff {cs : List Node} : everyAll p cs = true ↔ ∀ c ∈ cs, c.every p = true := by
  induction cs with
  | nil => simp [everyAll]
  | cons c cs ih => rw [everyAll, Bool.and_eq_true, ih, List.forall_mem_cons]

theorem every_branch_iff {kind : Kind} {label : Option Label} {cs : List Node} :
    (branch kind label cs).every p = true ↔ p kind cs = true ∧ ∀ c ∈ cs, c.every p = true := by
  rw [every, Bool.and_eq_true, everyAll_eq_true_iff]

theorem every_withLabel (l : Option Label) (n : Node) : (n.withLabel l).every p = n.every p := by
  cases n <;> rfl

theorem isContent_withLabel (l : Option Label) (n : Node) : (n.withLabel l).isContent = n.isContent := by
  cases n <;> rfl

theorem isContent_eq (n : Node) : n.isContent = (n.isNamed && !n.isComment) := by
  unfold isContent isNamed isComment
  cases n.kind <;> rfl

theorem isContent_eq_true_iff : n.isContent = true ↔ n.isNamed = true ∧ n.isComment = false := by
  rw [isContent_eq, Bool.and_eq_true, Bool.not_eq_true']

theorem kind_ne_comment (h : n.isContent = true) : n.kind ≠ .comment := fun hk => by
  rw [isContent, hk] at h
  cases h

theorem opensWithComment_cons {cs : List Node} (h : n.isContent = true) : opensWithComment (n :: cs) = false := by
  obtain ⟨hnamed, hcomment⟩ := isContent_eq_true_iff.1 h
  rw [opensWithComment, List.find?_cons, hnamed, Option.any_some, hcomment]

/-- A branch whose children fit is formed, if it is no expression statement or begins with content. -/
theorem every_formed_branch {kind : Kind} {label : Option Label} {cs : List Node}
    (hformed : ∀ c ∈ cs, c.every Kind.formed = true) (hfits : ∀ c ∈ cs, kind.fits c = true)
    (hopens : kind = .expressionStatement → opensWithComment cs = false) :
    (branch kind label cs).every Kind.formed = true := by
  refine every_branch_iff.2 ⟨?_, hformed⟩
  rw [Kind.formed, Bool.and_eq_true, List.all_eq_true]
  refine ⟨hfits, ?_⟩
  by_cases hkind : kind = .expressionStatement
  · rw [hopens hkind, Bool.not_false, Bool.or_true]
  · simp [hkind]

/-- A node that fits wherever it stands without a change of its label. -/
def isFree (n : Node) : Bool :=
  match n.label with
  | some .name | some .field | some .body | some .declarator => false
  | some .operator => n.kind == .token
  | _ => true

theorem fits_of_isFree (parent : Kind) (h : n.isFree = true) : parent.fits n = true := by
  unfold isFree at h
  unfold Kind.fits
  split at h <;> simp_all

/-- The tree is formed. It is a comment without a label, or it has the property `Q`. -/
structure FormedAs (Q : Node → Prop) (n : Node) : Prop where
  formed : n.every Kind.formed = true
  comment : n.kind = .comment → n.label = none
  other : n.kind ≠ .comment → Q n

theorem FormedAs.fits {Q : Node → Prop} {parent : Kind} (h : n.FormedAs Q)
    (hQ : ∀ n : Node, Q n → parent.fits n = true) : parent.fits n = true := by
  by_cases hk : n.kind = .comment
  · rw [Kind.fits, h.comment hk]
  · exact hQ n (h.other hk)

theorem FormedAs.of_isComment {Q Q' : Node → Prop} (h : n.FormedAs Q) (hn : n.isComment = true) : n.FormedAs Q' :=
  ⟨h.formed, h.comment, fun hk => absurd (eq_of_beq hn) hk⟩

end Node

/-! ## Rows of nodes -/

/-- Do the nodes begin with content, comments left out? -/
def opens (ns : List Node) : Bool := (ns.dropWhile Node.isComment).head?.any Node.isContent

theorem opens_append {ns : List Node} (h : opens ns = true) (ms : List Node) : opens (ns ++ ms) = true := by
  unfold opens at h ⊢
  rw [List.dropWhile_append]
  cases hd : ns.dropWhile Node.isComment with
  | nil => simp [hd] at h
  | cons n rest => simpa [hd] using h

theorem opens_behind {ns : List Node} {n : Node} (hns : ∀ m ∈ ns, m.isComment = true) (h : n.isContent = true) :
    opens (ns ++ [n]) = true := by
  induction ns with
  | nil => simp [opens, (Node.isContent_eq_true_iff.1 h).2, h]
  | cons m ns ih =>
    obtain ⟨hm, hns⟩ := List.forall_mem_cons.1 hns
    rw [List.cons_append, opens, List.dropWhile_cons, if_pos hm]
    exact ih hns

theorem exists_content_of_opens {ns : List Node} (h : opens ns = true) :
    ∃ n rest, ns.dropWhile Node.isComment = n :: rest ∧ n.isContent = true := by
  unfold opens at h
  cases hd : ns.dropWhile Node.isComment with
  | nil => simp [hd] at h
  | cons n rest => exact ⟨n, rest, rfl, by simpa [hd] using h⟩

/-- All nodes are formed, with the property `Q` but for comments; if `o` is set, they begin with content. -/
structure Formation (o : Bool) (Q : Node → Prop) (ns : List Node) : Prop where
  each : ∀ n ∈ ns, n.FormedAs Q
  opening : o = true → opens ns = true

theorem Formation.nil {Q : Node → Prop} : Formation false Q [] := ⟨nofun, nofun⟩

theorem Formation.append {o : Bool} {Q : Node → Prop} (ns ms : List Node) (h : Formation o Q ns)
    (h' : Formation false Q ms) : Formation o Q (ns ++ ms) :=
  ⟨List.forall_mem_append.2 ⟨h.each, h'.each⟩, fun ho => opens_append (h.opening ho) ms⟩

/-- Comments from the front of a row, and one node behind them. -/
theorem Formation.wrapped {o o' : Bool} {Q Q' : Node → Prop} {ns : List Node} {n : Node} (h : Formation o Q ns)
    (hn : n.FormedAs Q') (hcontent : o' = true → n.isContent = true) :
    Formation o' Q' (ns.takeWhile Node.isComment ++ [n]) := by
  have hcomments : ∀ m ∈ ns.takeWhile Node.isComment, m.isComment = true := List.all_eq_true.1 List.all_takeWhile
  refine ⟨List.forall_mem_append.2 ⟨fun m hm => ?_, by simpa using hn⟩, fun ho => opens_behind hcomments (hcontent ho)⟩
  exact (h.each m (List.takeWhile_sublist _ |>.subset hm)).of_isComment (hcomments m hm)

theorem Formation.dropWhile {o : Bool} {Q : Node → Prop} {ns : List Node} (h : Formation o Q ns) :
    ∀ n ∈ ns.dropWhile Node.isComment, n.FormedAs Q := fun n hn =>
  h.each n (List.dropWhile_sublist _ |>.subset hn)

/-! ## Building -/

/-- What a terminal reads: a token of its kind and the comments before it, or nothing. -/
def Terminal.Reads (t : Terminal) (ns : List Node) : Prop :=
  (∀ n ∈ ns, t.Matches n) ∧ (t.kind.isContent = true → opens ns = true)

/-- What is known of a node of a rule. -/
def Rule.admits (r : Rule) (n : Node) : Bool :=
  match r with
  | .block => n.isFree && n.kind == .block
  | .variableDeclarator => n.isFree && n.kind == .variableDeclarator
  | .creation => n.isFree && n.isContent
  | _ => n.isFree

/-- The rules whose nodes begin with content. -/
def Rule.opens : Rule → Bool
  | .expression | .operand | .primary | .creation | .switchExpression => true
  | _ => false

/-- The nodes of a parsing expression are formed and have the property `Q`; if `o` is set, they begin with content. -/
def Forms (o : Bool) (Q : Node → Prop) (p : Syn) : Prop :=
  p.Gives Terminal.Reads (fun r => Formation r.opens fun n => r.admits n = true) (Formation o Q)

variable {o : Bool} {Q : Node → Prop} {kind : Kind} {p q : Syn} {n : Node} {r : Rule}

theorem Rule.isFree_of_admits (h : r.admits n = true) : n.isFree = true := by
  unfold Rule.admits at h
  split at h <;> simp_all

theorem forms_terminal {t : Terminal} (hQ : ∀ piece, Q (.leaf t.kind none piece))
    (ho : (!o || t.kind.isContent) = true) : Forms o Q (.terminal t) := by
  refine .terminal fun ns hns => ⟨fun n hn => ?_, fun h => hns.2 (by simpa [h] using ho)⟩
  obtain ⟨kind, piece, rfl, hkind⟩ := hns.1 n hn
  refine ⟨rfl, fun _ => rfl, fun hcomment => ?_⟩
  rw [hkind.resolve_left hcomment]
  exact hQ piece

theorem forms_rule (hQ : ∀ n, r.admits n = true → Q n) (ho : (!o || r.opens) = true) : Forms o Q (.rule r) := by
  refine .rule fun ns hns => ⟨fun n hn => ?_, fun h => hns.opening (by simpa [h] using ho)⟩
  obtain ⟨hformed, hcomment, hadmits⟩ := hns.each n hn
  exact ⟨hformed, hcomment, fun hk => hQ n (hadmits hk)⟩

theorem forms_seq (hp : Forms o Q p) (hq : Forms false Q q) : Forms o Q (.seq p q) := .seq hp hq Formation.append

/-- What is only looked at gives nothing. -/
theorem forms_behind (hq : Forms o Q q) : Forms o Q (.seq (.ahead p) q) := by
  refine .seq (P := fun ns => ns = []) (.ahead rfl) hq fun ns ms hns hms => ?_
  rw [hns]
  exact hms

theorem forms_alt (hp : Forms o Q p) (hq : Forms o Q q) : Forms o Q (.alt p q) := .alt hp hq

theorem forms_empty : Forms false Q .empty := .empty .nil

theorem forms_ahead : Forms false Q (.ahead p) := .ahead .nil

theorem forms_absent : Forms false Q (.absent p) := .absent .nil

theorem forms_star (hp : Forms false Q p) : Forms false Q (.star p) := .star hp .nil Formation.append

theorem forms_node (h : Forms false (fun n => kind.fits n = true) p) (hkind : (kind == .expressionStatement) = false)
    (hQ : ∀ cs, Q (.branch kind none cs)) (ho : (!o || kind.isContent) = true) : Forms o Q (node kind p) := by
  refine .build h fun ns ns' hns hf => ?_
  rw [← Option.some.inj hf]
  have hcontent : o = true → kind.isContent = true := fun h => by simpa [h] using ho
  refine hns.wrapped ⟨?_, fun _ => rfl, fun _ => hQ _⟩ hcontent
  exact Node.every_formed_branch (fun c hc => (hns.dropWhile c hc).formed)
    (fun c hc => (hns.dropWhile c hc).fits fun _ => id) fun hk => by simp [hk] at hkind

/-- An expression statement begins with content, as its expression does. -/
theorem forms_expressionStatement (h : Forms true (fun n => Kind.expressionStatement.fits n = true) p)
    (hQ : ∀ cs, Q (.branch .expressionStatement none cs)) : Forms false Q (node .expressionStatement p) := by
  refine .build h fun ns ns' hns hf => ?_
  rw [← Option.some.inj hf]
  refine hns.wrapped ⟨?_, fun _ => rfl, fun _ => hQ _⟩ nofun
  refine Node.every_formed_branch (fun c hc => (hns.dropWhile c hc).formed)
    (fun c hc => (hns.dropWhile c hc).fits fun _ => id) fun _ => ?_
  obtain ⟨first, rest, hd, hfirst⟩ := exists_content_of_opens (hns.opening rfl)
  rw [hd]
  exact Node.opensWithComment_cons hfirst

theorem forms_label {l : Label} (h : Forms false (fun n => Q (n.withLabel (some l))) p) :
    Forms false Q (label l p) := by
  refine .build h fun ns ns' hns hf => ⟨fun n hn => ?_, nofun⟩
  rw [← Option.some.inj hf] at hn
  obtain ⟨m, hm, rfl⟩ := List.mem_map.1 hn
  obtain ⟨hformed, hcomment, hother⟩ := hns.each m hm
  split
  · next hc => exact ⟨hformed, hcomment, fun hk => absurd (eq_of_beq hc) hk⟩
  · next hc =>
    have hkind : m.kind ≠ .comment := fun hk => hc (by rw [Node.isComment, hk]; rfl)
    refine ⟨(Node.every_withLabel _ m).trans hformed, fun hk => ?_, fun _ => hother hkind⟩
    rw [Node.kind_withLabel] at hk
    exact absurd hk hkind

theorem forms_onlyKinds {kinds : List Kind} (h : Forms o Q p) : Forms o Q (onlyKinds kinds p) := by
  refine .build h fun ns ns' hns hf => ?_
  obtain ⟨-, hf⟩ := Option.ite_none_right_eq_some.1 hf
  rw [← Option.some.inj hf]
  exact hns

/-- Free nodes under one of no further interest. -/
theorem Formation.other {ns : List Node} (h : Formation o (fun n => n.isFree = true) ns)
    (hQ : ∀ n : Node, n.isFree = true → Q n) : Formation o Q (wrapNodes .other ns) := by
  refine h.wrapped ⟨?_, fun _ => rfl, fun _ => hQ _ rfl⟩ fun _ => rfl
  exact Node.every_formed_branch (fun c hc => (h.dropWhile c hc).formed)
    (fun c hc => (h.dropWhile c hc).fits fun _ => Node.fits_of_isFree _) nofun

theorem Formation.imp {Q' : Node → Prop} {ns : List Node} (h : Formation o Q ns) (hQ : ∀ n, Q n → Q' n) :
    Formation o Q' ns :=
  ⟨fun n hn => ⟨(h.each n hn).formed, (h.each n hn).comment, fun hk => hQ n ((h.each n hn).other hk)⟩, h.opening⟩

theorem forms_collapse (h : Forms o (fun n => n.isFree = true) p) (hQ : ∀ n : Node, n.isFree = true → Q n) :
    Forms o Q (collapse p) := by
  refine .build h fun ns ns' hns hf => ?_
  rw [← Option.some.inj hf]
  split
  · exact hns.imp hQ
  · exact hns.other hQ

/-- A node that suffixes are attached to. -/
structure Based (n : Node) : Prop where
  formed : n.every Kind.formed = true
  free : n.isFree = true
  content : n.isContent = true

theorem Based.object {n : Node} (h : Based n) : Based (n.withLabel (some .object)) :=
  ⟨(Node.every_withLabel _ n).trans h.formed, by cases n <;> rfl, (Node.isContent_withLabel _ n).trans h.content⟩

/-- A suffix takes what it follows in front of its own children. -/
theorem based_attachSuffix {before : List Node} {suffix base : Node}
    (hbefore : ∀ n ∈ before, n.FormedAs fun n => n.isFree = true) (hformed : suffix.every Kind.formed = true)
    (hfree : suffix.isFree = true) (hcontent : suffix.isLeaf = true ∨ suffix.isContent = true) (hbase : Based base) :
    Based (attachSuffix before [suffix] base) := by
  have hfits : ∀ kind : Kind, ∀ n ∈ before, kind.fits n = true := fun kind n hn =>
    (hbefore n hn).fits fun _ => Node.fits_of_isFree kind
  cases suffix with
  | leaf k l piece =>
    refine ⟨Node.every_formed_branch ?_ ?_ nofun, rfl, rfl⟩
    · simpa [hbase.formed, hformed, or_imp, forall_and] using fun n hn => (hbefore n hn).formed
    · simpa [Node.fits_of_isFree _ hbase.free, Node.fits_of_isFree _ hfree, or_imp, forall_and] using hfits .other
  | branch k l cs =>
    obtain ⟨hk, hcs⟩ := Node.every_branch_iff.1 hformed
    rw [Kind.formed, Bool.and_eq_true, List.all_eq_true] at hk
    obtain ⟨first, heq, hfirst⟩ : ∃ first, attachSuffix before [.branch k l cs] base =
        .branch k l (first :: before ++ cs) ∧ Based first := by
      by_cases hobject : k = .methodInvocation ∨ k = .fieldAccess
      · exact ⟨base.withLabel (some .object), by simp [attachSuffix, hobject], hbase.object⟩
      · exact ⟨base, by simp [attachSuffix, hobject], hbase⟩
    rw [heq]
    refine ⟨Node.every_formed_branch ?_ ?_ fun _ => Node.opensWithComment_cons hfirst.content, hfree, ?_⟩
    · simpa [hfirst.formed, or_imp, forall_and] using ⟨fun n hn => (hbefore n hn).formed, hcs⟩
    · simpa [Node.fits_of_isFree _ hfirst.free, or_imp, forall_and] using ⟨hfits k, hk.1⟩
    · exact hcontent.resolve_left nofun

/-- What suffixes and what they are attached to have in common. -/
def Node.isSuffix (n : Node) : Bool := n.isFree && (n.isLeaf || n.isContent)

theorem based_attachSuffixes {waiting ns : List Node} {base : Node}
    (hwaiting : ∀ n ∈ waiting, n.FormedAs fun n => n.isFree = true)
    (hns : ∀ n ∈ ns, n.FormedAs fun n => n.isSuffix = true) (hbase : Based base) :
    Based (attachSuffixes base waiting ns) := by
  induction ns generalizing base waiting with
  | nil => exact hbase
  | cons n ns ih =>
    obtain ⟨hn, hns⟩ := List.forall_mem_cons.1 hns
    unfold attachSuffixes
    split
    · next hcomment => exact ih (List.forall_mem_cons.2 ⟨hn.of_isComment hcomment, hwaiting⟩) hns hbase
    · next hcomment =>
      have hsuffix : n.isSuffix = true := hn.other fun hk => hcomment (by rw [Node.isComment, hk]; rfl)
      rw [Node.isSuffix, Bool.and_eq_true, Bool.or_eq_true] at hsuffix
      have hwaiting' : ∀ m ∈ waiting.reverse, m.FormedAs fun n => n.isFree = true := fun m hm =>
        hwaiting m (List.mem_reverse.1 hm)
      exact ih (List.forall_mem_nil _) hns (based_attachSuffix hwaiting' hn.formed hsuffix.1 hsuffix.2 hbase)

theorem forms_suffixed (h : Forms true (fun n => n.isSuffix = true) p) (hQ : ∀ n : Node, n.isFree = true → Q n) :
    Forms o Q (suffixed p) := by
  refine .build h fun ns ns' hns hf => ?_
  obtain ⟨base, suffixes, hd, hcontent⟩ := exists_content_of_opens (hns.opening rfl)
  have hrest := hns.dropWhile
  rw [hd] at hf hrest
  obtain ⟨hbase, hsuffixes⟩ := List.forall_mem_cons.1 hrest
  have hsuffix : base.isSuffix = true := hbase.other (Node.kind_ne_comment hcontent)
  have hbased : Based (attachSuffixes base [] suffixes) :=
    based_attachSuffixes (List.forall_mem_nil _) hsuffixes ⟨hbase.formed, (Bool.and_eq_true_iff.1 hsuffix).1, hcontent⟩
  rw [← Option.some.inj hf]
  refine hns.wrapped ⟨hbased.formed, fun hk => ?_, fun _ => hQ _ hbased.free⟩ fun _ => hbased.content
  exact absurd hk (Node.kind_ne_comment hbased.content)

theorem forms_operandNode (h : Forms true (fun n => n.isFree = true) p) (hQ : ∀ n : Node, n.isFree = true → Q n) :
    Forms o Q (operandNode p) := by
  refine .build h fun ns ns' hfree hf => ?_
  have hns : Formation o (fun n => n.isFree = true) ns := ⟨hfree.each, fun _ => hfree.opening rfl⟩
  have hrest := hns.dropWhile
  split at hf
  · cases hf
  · rw [← Option.some.inj hf]
    exact hns.imp hQ
  · next base rest _ hd =>
    rw [hd] at hrest
    obtain ⟨hbase, hrest⟩ := List.forall_mem_cons.1 hrest
    split at hf
    · split at hf
      · rw [← Option.some.inj hf]
        refine hns.wrapped ⟨Node.every_formed_branch ?_ ?_ nofun, fun _ => rfl, fun _ => hQ _ rfl⟩ fun _ => rfl
        · exact List.forall_mem_cons.2 ⟨(Node.every_withLabel _ base).trans hbase.formed,
            fun n hn => (hrest n hn).formed⟩
        · refine List.forall_mem_cons.2 ⟨by cases base <;> rfl, fun n hn => ?_⟩
          exact (hrest n hn).fits fun _ => Node.fits_of_isFree _
      · cases hf
    · rw [← Option.some.inj hf]
      exact hns.other hQ

/-! ## Rules -/

theorem fits_of_admits {parent : Kind} (n : Node) (h : r.admits n = true) : parent.fits n = true :=
  Node.fits_of_isFree parent (Rule.isFree_of_admits h)

theorem fits_body (n : Node) (h : Rule.block.admits n = true) :
    Kind.methodDeclaration.fits (n.withLabel (some .body)) = true := by
  cases n <;> exact (Bool.and_eq_true_iff.1 h).2

theorem fits_declarator {parent : Kind} (n : Node) (h : Rule.variableDeclarator.admits n = true) :
    parent.fits (n.withLabel (some .declarator)) = true := by
  cases n <;> exact (Bool.and_eq_true_iff.1 h).2

theorem isSuffix_creation (n : Node) (h : Rule.creation.admits n = true) : n.isSuffix = true := by
  obtain ⟨hfree, hcontent⟩ := Bool.and_eq_true_iff.1 h
  rw [Node.isSuffix, hfree, hcontent, Bool.or_true]
  rfl

theorem isFree_of_admits (n : Node) (h : r.admits n = true) : n.isFree = true := Rule.isFree_of_admits h

/-- The proof goes down each expression; what is left at its terminals, rules and nodes is what is known of them. -/
theorem forms_rules (r : Rule) : Forms r.opens (fun n => r.admits n = true) (rules r) := by
  cases r
  all_goals
    repeat first
      | rfl
      | apply forms_terminal
      | apply forms_rule
      | apply forms_behind
      | apply forms_seq
      | apply forms_alt
      | apply forms_expressionStatement
      | apply forms_node
      | apply forms_label
      | exact forms_empty
      | exact forms_ahead
      | exact forms_absent
      | apply forms_star
      | apply forms_onlyKinds
      | apply forms_collapse
      | apply forms_suffixed
      | apply forms_operandNode
      | exact fun _ => rfl
      | exact fits_of_admits
      | exact isFree_of_admits
      | exact fits_body
      | exact fits_declarator
      | exact isSuffix_creation
      | exact fun _ => id
      | exact fun n _ => by cases n <;> rfl

/-! ## Trees -/

theorem stepToken_reads {tokens : Array Token} {t : Terminal} {pos next : Nat} {ns : List Node}
    (h : stepToken tokens t pos = some (ns, next)) : t.Reads ns := by
  refine ⟨stepToken_matches h, fun hcontent => ?_⟩
  unfold stepToken at h
  cases htoken : tokens[pos]? with
  | none => simp [htoken] at h
  | some token =>
    simp only [htoken] at h
    cases t with
    | parenthesized => cases hcontent
    | _ =>
      obtain ⟨-, h⟩ := Option.ite_none_right_eq_some.1 h
      cases h
      refine opens_behind (fun m hm => ?_) hcontent
      obtain ⟨piece, -, rfl⟩ := List.mem_map.1 hm
      rfl

/-- Every tree of a source text is formed. -/
theorem parseTree_formed {source : String} {root : Node} (h : parseTree source = .ok root) :
    root.every Kind.formed = true := by
  unfold parseTree at h
  cases hts : tokens source with
  | error row => simp [hts] at h
  | ok ts =>
    simp only [hts] at h
    rcases hparse : (grammar ts.toArray).parse ts.toArray.size .program with ⟨_ | ⟨nodes, last⟩, far⟩
    · simp only [hparse, reduceCtorEq] at h
    · simp only [hparse, Except.ok.injEq] at h
      rw [← h]
      have hrule : Forms false (fun n => Kind.program.fits n = true) (.rule .program) := forms_rule fits_of_admits rfl
      have hnodes : Formation false (fun n => Kind.program.fits n = true) nodes :=
        Grammar.run_gives (fun _ _ _ _ => stepToken_reads) forms_rules hrule (congrArg Parsed.result hparse)
      exact Node.every_formed_branch (fun n hn => (hnodes.each n hn).formed)
        (fun n hn => (hnodes.each n hn).fits fun _ => id) nofun

end ConfigCoverage.Java
