import ConfigCoverage.Proofs.JavaForms

/-!
# The declarations in Java trees

A method has a name. A declaration of a type has one body, and no method and no other type stands in it beside the body.
Every tree of a source text is so built.

* `Node.Declaring`: the declarations in a tree are so built.
* `rows_node`, `rows_body`, `rows_suffixed`: the ways to build nodes keep it.
* `parseTree_declaring`: it holds of every tree of a source text.
-/

namespace ConfigCoverage.Java

/-! ## Declarations -/

/-- Types, their bodies and methods. -/
def Kind.isMember (k : Kind) : Bool := k == .methodDeclaration || k.isTypeDeclaration || k.isTypeBody

/-- Is a node neither a member nor the body of its parent? -/
def Node.isPlain (n : Node) : Bool := !n.kind.isMember && n.label != some .body

/-- The children are those of a declaration, if the kind is that of one: a method has a name, and a type has one body and
nothing else that is not plain. -/
structure Declares (kind : Kind) (cs : List Node) : Prop where
  name : kind = .methodDeclaration → ∃ c ∈ cs, c.label = some .name
  body : kind.isTypeDeclaration = true →
    ∃ b, cs.filter (fun c => !c.isPlain) = [b] ∧ b.label = some .body ∧ b.kind.isTypeBody = true

/-- All declarations in the tree are built as they should be. -/
inductive Node.Declaring : Node → Prop
  | intro {n : Node} : Declares n.kind n.children → (∀ c ∈ n.children, Declaring c) → Declaring n

theorem declares_of_not_isMember {kind : Kind} (h : kind.isMember = false) (cs : List Node) : Declares kind cs := by
  constructor
  · rintro rfl
    cases h
  · intro hk
    rw [Kind.isMember, hk] at h
    simp at h

namespace Node

variable {n : Node}

theorem Declaring.declares (h : n.Declaring) : Declares n.kind n.children := by
  cases h with | intro hd _ => exact hd

theorem Declaring.child {c : Node} (h : n.Declaring) (hc : c ∈ n.children) : c.Declaring := by
  cases h with | intro _ hcs => exact hcs c hc

theorem children_withLabel (l : Option Label) (n : Node) : (n.withLabel l).children = n.children := by cases n <;> rfl

theorem Declaring.withLabel (h : n.Declaring) (l : Option Label) : (n.withLabel l).Declaring := by
  refine .intro ?_ fun c hc => ?_
  · rw [kind_withLabel, children_withLabel]
    exact h.declares
  · rw [children_withLabel] at hc
    exact h.child hc

/-- The declarations in the tree are right, and the node has no label if it is a comment. -/
structure Sound (n : Node) : Prop where
  declaring : n.Declaring
  comment : n.kind = .comment → n.label = none

theorem sound_leaf {kind : Kind} {piece : Piece} (h : kind.isMember = false) : (leaf kind none piece).Sound :=
  ⟨.intro (declares_of_not_isMember h _) (List.forall_mem_nil _), fun _ => rfl⟩

theorem Sound.isPlain_of_isComment (h : n.Sound) (hn : n.isComment = true) : n.isPlain = true := by
  have hkind : n.kind = .comment := eq_of_beq hn
  rw [isPlain, hkind, h.comment hkind]
  rfl

theorem isMember_of_isPlain (h : n.isPlain = true) : n.kind.isMember = false := by
  rw [isPlain, Bool.and_eq_true, Bool.not_eq_true'] at h
  exact h.1

end Node

/-! ## Rows of nodes -/

/-- What is known of a row of nodes. -/
inductive Mode where
  | any
  /-- No node is labelled as a body. -/
  | free
  /-- All nodes are plain. -/
  | plain
  /-- One node is labelled as a name. -/
  | named
  /-- There is one body behind comments, without its label. -/
  | body
  /-- One node is a body with its label, and the others are plain. -/
  | bodied
deriving DecidableEq

namespace Mode

/-- What is known of each node. -/
def fits : Mode → Node → Bool
  | any, _ | named, _ | bodied, _ => true
  | free, n | body, n => n.label != some .body
  | plain, n => n.isPlain

/-- What is known of the row as a whole. -/
def Whole : Mode → List Node → Prop
  | named, ns => ∃ n ∈ ns, n.label = some .name
  | body, ns => ∃ comments b, ns = comments ++ [b] ∧ (∀ c ∈ comments, c.isComment = true) ∧ b.kind.isTypeBody = true
  | bodied, ns => ∃ b, ns.filter (fun n => !n.isPlain) = [b] ∧ b.label = some .body ∧ b.kind.isTypeBody = true
  | _, _ => True

/-- Is nothing known of the row but what is known of each node? -/
def isEach : Mode → Bool
  | any | free | plain => true
  | _ => false

/-- May the row consist of comments and one node of the kind? -/
def admits : Mode → Kind → Bool
  | any, _ | free, _ => true
  | plain, k => !k.isMember
  | body, k => k.isTypeBody
  | _, _ => false

/-- Is a row of the second mode also one of the first? -/
def covers : Mode → Mode → Bool
  | any, _ => true
  | free, m => m == free || m == plain || m == body
  | m, m' => m == m'

end Mode

/-- All nodes of the row are sound, and the row is of the mode. -/
structure Row (m : Mode) (ns : List Node) : Prop where
  each : ∀ n ∈ ns, n.Sound ∧ m.fits n = true
  whole : m.Whole ns

variable {m : Mode} {ns : List Node}

theorem Mode.whole_of_isEach (h : m.isEach = true) (ns : List Node) : m.Whole ns := by
  cases m with
  | any | free | plain => trivial
  | named | body | bodied => cases h

theorem Row.of_each (h : m.isEach = true) (hns : ∀ n ∈ ns, n.Sound ∧ m.fits n = true) : Row m ns :=
  ⟨hns, m.whole_of_isEach h ns⟩

theorem Row.nil (h : m.isEach = true) : Row m [] := .of_each h (List.forall_mem_nil _)

theorem Row.append (h : m.isEach = true) (ns ms : List Node) (hns : Row m ns) (hms : Row m ms) : Row m (ns ++ ms) :=
  .of_each h (List.forall_mem_append.2 ⟨hns.each, hms.each⟩)

theorem Row.cover {m' : Mode} (h : Row m' ns) (hm : m.covers m' = true) : Row m ns := by
  have hfree : ∀ n : Node, n.isPlain = true → (n.label != some .body) = true := fun n hn =>
    (Bool.and_eq_true_iff.1 hn).2
  cases m with
  | any => exact .of_each rfl fun n hn => ⟨(h.each n hn).1, rfl⟩
  | free =>
    refine .of_each rfl fun n hn => ⟨(h.each n hn).1, ?_⟩
    cases m' with
    | free | body => exact (h.each n hn).2
    | plain => exact hfree n (h.each n hn).2
    | any | named | bodied => cases hm
  | plain | named | body | bodied => exact eq_of_beq hm ▸ h

/-- The comments at the front of a row. -/
theorem Row.takeWhile (h : Row m ns) :
    ∀ c ∈ ns.takeWhile Node.isComment, c.isComment = true ∧ c.Sound ∧ c.isPlain = true := fun c hc => by
  have hcomment : c.isComment = true := List.all_eq_true.1 List.all_takeWhile c hc
  have hsound : c.Sound := (h.each c (List.takeWhile_sublist _ |>.subset hc)).1
  exact ⟨hcomment, hsound, hsound.isPlain_of_isComment hcomment⟩

theorem Row.dropWhile (h : Row m ns) : ∀ n ∈ ns.dropWhile Node.isComment, n.Sound ∧ m.fits n = true := fun n hn =>
  h.each n (List.dropWhile_sublist _ |>.subset hn)

/-- Comments from the front of a row, and one node behind them. -/
theorem Row.wrapped {m' : Mode} {n : Node} (h : Row m' ns) (hn : n.Sound) (hkind : m.admits n.kind = true)
    (hlabel : (n.label != some .body) = true) : Row m (ns.takeWhile Node.isComment ++ [n]) := by
  have hfree : ∀ c ∈ ns.takeWhile Node.isComment, c.Sound ∧ (c.label != some .body) = true := fun c hc =>
    ⟨(h.takeWhile c hc).2.1, (Bool.and_eq_true_iff.1 (h.takeWhile c hc).2.2).2⟩
  cases m with
  | any => exact .of_each rfl (List.forall_mem_append.2 ⟨fun c hc => ⟨(hfree c hc).1, rfl⟩, by simpa using ⟨hn, rfl⟩⟩)
  | free => exact .of_each rfl (List.forall_mem_append.2 ⟨hfree, by simpa using ⟨hn, hlabel⟩⟩)
  | plain =>
    have hplain : n.isPlain = true := by
      rw [Node.isPlain, Bool.and_eq_true]
      exact ⟨hkind, hlabel⟩
    exact .of_each rfl (List.forall_mem_append.2 ⟨fun c hc => (h.takeWhile c hc).2, by simpa using ⟨hn, hplain⟩⟩)
  | body =>
    refine ⟨List.forall_mem_append.2 ⟨hfree, by simpa using ⟨hn, hlabel⟩⟩, _, n, rfl, fun c hc => ?_, hkind⟩
    exact (h.takeWhile c hc).1
  | named | bodied => cases hkind

/-! ## Building -/

/-- What must be known of the children of a node of the kind. -/
def Kind.mode (k : Kind) : Mode :=
  if k = .methodDeclaration then .named else if k.isTypeDeclaration then .bodied else .any

/-- What is known of the nodes of a rule. -/
def Rule.mode : Rule → Mode
  | .classBody | .interfaceBody | .enumBody => .body
  | .program | .topLevel | .statement | .classMember | .typeDeclaration | .methodDeclaration => .free
  | _ => .plain

/-- The nodes of a parsing expression are a row of the mode. -/
def Rows (m : Mode) (p : Syn) : Prop := p.Gives Terminal.Reads (fun r => Row r.mode) (Row m)

variable {kind : Kind} {p q : Syn} {r : Rule}

theorem filter_of_plain (h : ∀ n ∈ ns, n.isPlain = true) : ns.filter (fun n => !n.isPlain) = [] :=
  List.filter_eq_nil_iff.2 fun n hn => by simp [h n hn]

/-- The children of a node are those behind its first comments, and no comment is a name or a body. -/
theorem declares_dropWhile (h : Row kind.mode ns) : Declares kind (ns.dropWhile Node.isComment) := by
  have hsplit : ns.takeWhile Node.isComment ++ ns.dropWhile Node.isComment = ns := List.takeWhile_append_dropWhile
  constructor
  · rintro rfl
    obtain ⟨n, hn, hname⟩ := h.whole
    rw [← hsplit, List.mem_append] at hn
    rcases hn with hn | hn
    · obtain ⟨hcomment, hsound, -⟩ := h.takeWhile n hn
      rw [hsound.comment (eq_of_beq hcomment)] at hname
      cases hname
    · exact ⟨n, hn, hname⟩
  · intro htype
    have hmode : kind.mode = .bodied := by
      cases kind <;> first | rfl | cases htype
    rw [hmode] at h
    obtain ⟨b, hfilter, hb⟩ := h.whole
    rw [← hsplit, List.filter_append, filter_of_plain fun c hc => (h.takeWhile c hc).2.2, List.nil_append] at hfilter
    exact ⟨b, hfilter, hb⟩

theorem rows_node (h : Rows kind.mode p) (hkind : m.admits kind = true) : Rows m (node kind p) := by
  refine .build h fun ns ns' hns hf => ?_
  rw [← Option.some.inj hf]
  refine hns.wrapped ⟨.intro (declares_dropWhile hns) fun c hc => ?_, fun _ => rfl⟩ hkind rfl
  exact (hns.dropWhile c hc).1.declaring

theorem rows_terminal {t : Terminal} (hm : m.covers .plain = true) (ht : t.kind.isMember = false) :
    Rows m (.terminal t) := by
  refine .terminal fun ns hns => ?_
  have hplain : Row .plain ns := .of_each rfl fun n hn => by
    obtain ⟨kind, piece, rfl, rfl | rfl⟩ := hns.1 n hn
    · exact ⟨Node.sound_leaf rfl, rfl⟩
    · refine ⟨Node.sound_leaf ht, ?_⟩
      rw [Mode.fits, Node.isPlain, Node.kind, ht]
      rfl
  exact hplain.cover hm

theorem rows_rule (h : m.covers r.mode = true) : Rows m (.rule r) := .rule fun _ hns => hns.cover h

theorem rows_seq (hm : m.isEach = true) (hp : Rows m p) (hq : Rows m q) : Rows m (.seq p q) :=
  .seq hp hq (Row.append hm)

theorem rows_alt (hp : Rows m p) (hq : Rows m q) : Rows m (.alt p q) := .alt hp hq

theorem rows_empty (hm : m.isEach = true) : Rows m .empty := .empty (.nil hm)

theorem rows_ahead (hm : m.isEach = true) : Rows m (.ahead p) := .ahead (.nil hm)

theorem rows_absent (hm : m.isEach = true) : Rows m (.absent p) := .absent (.nil hm)

theorem rows_star (hm : m.isEach = true) (hp : Rows m p) : Rows m (.star p) := .star hp (.nil hm) (Row.append hm)

theorem rows_onlyKinds {kinds : List Kind} (h : Rows m p) : Rows m (onlyKinds kinds p) := by
  refine .build h fun ns ns' hns hf => ?_
  obtain ⟨-, hf⟩ := Option.ite_none_right_eq_some.1 hf
  rw [← Option.some.inj hf]
  exact hns

/-! ### Labels -/

/-- A node with a label, unless it is a comment. -/
def labelled (l : Label) (n : Node) : Node := if n.isComment then n else n.withLabel (some l)

theorem sound_labelled {n : Node} (h : n.Sound) (l : Label) : (labelled l n).Sound := by
  unfold labelled
  split
  · exact h
  · next hc =>
    refine ⟨h.declaring.withLabel _, fun hk => ?_⟩
    rw [Node.kind_withLabel] at hk
    exact absurd (by rw [Node.isComment, hk]; rfl) hc

theorem isPlain_labelled {n : Node} (h : n.isPlain = true) {l : Label} (hl : (l == .body) = false) :
    (labelled l n).isPlain = true := by
  unfold labelled
  split
  · exact h
  · have hne : (some l != some Label.body) = true := by
      rw [bne_iff_ne]
      rintro heq
      cases heq
      cases hl
    rw [Node.isPlain, Node.kind_withLabel, Node.label_withLabel, Node.isMember_of_isPlain h, hne]
    rfl

theorem rows_label {l : Label} (h : Rows .plain p) (hl : (l == .body) = false) : Rows .plain (label l p) := by
  refine .build h fun ns ns' hns hf => .of_each rfl fun n hn => ?_
  rw [← Option.some.inj hf] at hn
  obtain ⟨c, hc, rfl⟩ := List.mem_map.1 hn
  exact ⟨sound_labelled (hns.each c hc).1 l, isPlain_labelled (hns.each c hc).2 hl⟩

theorem rows_label_any {l : Label} (h : Rows .any p) : Rows .any (label l p) := by
  refine .build h fun ns ns' hns hf => .of_each rfl fun n hn => ?_
  rw [← Option.some.inj hf] at hn
  obtain ⟨c, hc, rfl⟩ := List.mem_map.1 hn
  exact ⟨sound_labelled (hns.each c hc).1 l, rfl⟩

/-- The name of a declaration is the content of its terminal. -/
theorem rows_named_here {place : NamePlace} (hq : Rows .any q) :
    Rows .named (.seq (label .name (.terminal (.name place))) q) := by
  have hterminal : Rows .any (.terminal (.name place)) := rows_terminal rfl rfl
  have hname : (label .name (.terminal (.name place))).Gives Terminal.Reads (fun r => Row r.mode) (Row .named) := by
    refine .build (P := Row .named) (Q := fun ns => Row .any ns ∧ opens ns = true) (.terminal fun ns hns => ?_) ?_
    · cases hterminal with
      | terminal h => exact ⟨h ns hns, hns.2 rfl⟩
    · rintro ns ns' ⟨hns, hopens⟩ hf
      rw [← Option.some.inj hf]
      refine ⟨fun n hn => ?_, ?_⟩
      · obtain ⟨c, hc, rfl⟩ := List.mem_map.1 hn
        exact ⟨sound_labelled (hns.each c hc).1 .name, rfl⟩
      · obtain ⟨c, rest, hdrop, hcontent⟩ := exists_content_of_opens hopens
        have hc : c ∈ ns := (List.dropWhile_sublist _).subset (hdrop ▸ List.mem_cons_self)
        refine ⟨labelled .name c, List.mem_map_of_mem hc, ?_⟩
        rw [labelled, if_neg (by simp [(Node.isContent_eq_true_iff.1 hcontent).2]), Node.label_withLabel]
  refine .seq hname hq fun ns ms hns hms => ⟨List.forall_mem_append.2 ⟨hns.each, hms.each⟩, ?_⟩
  obtain ⟨n, hn, hlabel⟩ := hns.whole
  exact ⟨n, List.mem_append_left ms hn, hlabel⟩

theorem rows_named_later (hp : Rows .any p) (hq : Rows .named q) : Rows .named (.seq p q) := by
  refine .seq hp hq fun ns ms hns hms => ⟨List.forall_mem_append.2 ⟨hns.each, hms.each⟩, ?_⟩
  obtain ⟨n, hn, hlabel⟩ := hms.whole
  exact ⟨n, List.mem_append_right ns hn, hlabel⟩

/-- The rule of a body gives one node, which takes the label. -/
theorem rows_body (hr : r.mode = .body) : Rows .bodied (label .body (.rule r)) := by
  refine .build (Q := Row .body) (.rule fun ns hns => hr ▸ hns) fun ns ns' hns hf => ?_
  rw [← Option.some.inj hf]
  refine ⟨fun n hn => ?_, ?_⟩
  · obtain ⟨c, hc, rfl⟩ := List.mem_map.1 hn
    exact ⟨sound_labelled (hns.each c hc).1 .body, rfl⟩
  · obtain ⟨comments, b, rfl, hcomments, hkind⟩ := hns.whole
    have hb : labelled .body b = b.withLabel (some .body) := by
      refine if_neg fun hc => ?_
      rw [eq_of_beq hc] at hkind
      cases hkind
    have hplain : ∀ c ∈ comments.map (labelled .body), c.isPlain = true := by
      intro n hn
      obtain ⟨c, hc, rfl⟩ := List.mem_map.1 hn
      rw [labelled, if_pos (hcomments c hc)]
      exact (hns.each c (List.mem_append_left _ hc)).1.isPlain_of_isComment (hcomments c hc)
    have hbody : (b.withLabel (some .body)).isPlain = false := by
      rw [Node.isPlain, Node.label_withLabel, bne_self_eq_false, Bool.and_false]
    refine ⟨b.withLabel (some .body), ?_, Node.label_withLabel _ b, ?_⟩
    · have hmap : (comments ++ [b]).map (labelled .body) =
          comments.map (labelled .body) ++ [b.withLabel (some .body)] := by
        rw [List.map_append, List.map_singleton, hb]
      exact (congrArg _ hmap).trans (by rw [List.filter_append, filter_of_plain hplain]; simp [hbody])
    · rw [Node.kind_withLabel]
      exact hkind

theorem rows_bodied_later (hp : Rows .plain p) (hq : Rows .bodied q) : Rows .bodied (.seq p q) := by
  refine .seq hp hq fun ns ms hns hms => ⟨List.forall_mem_append.2 ⟨fun n hn => ⟨(hns.each n hn).1, rfl⟩, hms.each⟩, ?_⟩
  obtain ⟨b, hfilter, hb⟩ := hms.whole
  refine ⟨b, ?_, hb⟩
  rw [List.filter_append, filter_of_plain fun n hn => (hns.each n hn).2, hfilter]
  rfl

/-! ### Expressions -/

/-- A node of an expression: it is plain, and the declarations below it are right. -/
def Quiet (n : Node) : Prop := n.Sound ∧ n.isPlain = true

/-- All nodes may stand below one that is no declaration. -/
theorem quiet_branch {label : Option Label} {cs : List Node} (hkind : kind.isMember = false)
    (hlabel : (label != some .body) = true) (hcomment : kind = .comment → label = none) (hcs : ∀ c ∈ cs, c.Declaring) :
    Quiet (.branch kind label cs) := by
  refine ⟨⟨.intro (declares_of_not_isMember hkind cs) hcs, hcomment⟩, ?_⟩
  rw [Node.isPlain, Node.kind, hkind, Node.label, hlabel]
  rfl

theorem Quiet.labelled {n : Node} (h : Quiet n) {l : Label} (hl : (l == .body) = false) : Quiet (labelled l n) :=
  ⟨sound_labelled h.1 l, isPlain_labelled h.2 hl⟩

/-- A suffix takes what it follows in front of its own children. -/
theorem quiet_attachSuffix {before : List Node} {suffix base : Node} (hbefore : ∀ n ∈ before, Quiet n)
    (hsuffix : Quiet suffix) (hbase : Quiet base) (hcomment : base.isComment = false) :
    Quiet (attachSuffix before [suffix] base) := by
  have hobject : Quiet (base.withLabel (some .object)) := by
    have heq : labelled .object base = base.withLabel (some .object) := if_neg (by simp [hcomment])
    exact heq ▸ hbase.labelled rfl
  cases suffix with
  | leaf k l piece =>
    -- A suffix without children is kept as a child, behind what it follows.
    refine quiet_branch rfl rfl (fun hk => by cases hk) fun c hc => ?_
    rw [List.cons_append, List.mem_cons, List.mem_append, List.mem_singleton] at hc
    rcases hc with rfl | hc | rfl
    · exact hbase.1.declaring
    · exact (hbefore c hc).1.declaring
    · exact hsuffix.1.declaring
  | branch k l cs =>
    have hplain := Bool.and_eq_true_iff.1 hsuffix.2
    refine quiet_branch (Node.isMember_of_isPlain hsuffix.2) hplain.2 hsuffix.1.comment fun c hc => ?_
    rw [List.cons_append, List.mem_cons, List.mem_append] at hc
    rcases hc with rfl | hc | hc
    · split
      · exact hobject.1.declaring
      · exact hbase.1.declaring
    · exact (hbefore c hc).1.declaring
    · exact hsuffix.1.declaring.child hc

theorem isComment_attachSuffix {before : List Node} {suffix base : Node} (h : suffix.isComment = false) :
    (attachSuffix before [suffix] base).isComment = false := by
  cases suffix with
  | leaf k l piece => rfl
  | branch k l cs => exact h

theorem quiet_attachSuffixes {waiting : List Node} {base : Node} (hwaiting : ∀ n ∈ waiting, Quiet n)
    (hns : ∀ n ∈ ns, Quiet n) (hbase : Quiet base) (hcomment : base.isComment = false) :
    Quiet (attachSuffixes base waiting ns) := by
  induction ns generalizing base waiting with
  | nil => exact hbase
  | cons n ns ih =>
    obtain ⟨hn, hns⟩ := List.forall_mem_cons.1 hns
    unfold attachSuffixes
    split
    · exact ih (List.forall_mem_cons.2 ⟨hn, hwaiting⟩) hns hbase hcomment
    · next hc =>
      have hwaiting' : ∀ m ∈ waiting.reverse, Quiet m := fun m hm => hwaiting m (List.mem_reverse.1 hm)
      refine ih (List.forall_mem_nil _) hns (quiet_attachSuffix hwaiting' hn hbase hcomment) ?_
      exact isComment_attachSuffix (by simpa using hc)

/-- Comments from the front of a row of an expression, and one node of it behind them. -/
theorem Row.quiet_wrapped {n : Node} (h : Row .plain ns) (hn : Quiet n) :
    Row .plain (ns.takeWhile Node.isComment ++ [n]) := by
  obtain ⟨hkind, hlabel⟩ := Bool.and_eq_true_iff.1 hn.2
  exact h.wrapped hn.1 hkind hlabel

theorem Row.quiet_other (h : Row .plain ns) : Row .plain (wrapNodes .other ns) :=
  h.quiet_wrapped (quiet_branch rfl rfl (fun hk => by cases hk) fun c hc => (h.dropWhile c hc).1.declaring)

theorem isComment_of_dropWhile {base : Node} {rest : List Node} (h : ns.dropWhile Node.isComment = base :: rest) :
    base.isComment = false := by
  have hhead := List.head?_dropWhile_not Node.isComment ns
  rw [h] at hhead
  exact hhead

theorem rows_collapse (h : Rows .plain p) : Rows .plain (collapse p) := by
  refine .build h fun ns ns' hns hf => ?_
  rw [← Option.some.inj hf]
  split
  · exact hns
  · exact hns.quiet_other

theorem rows_suffixed (h : Rows .plain p) : Rows .plain (suffixed p) := by
  refine .build h fun ns ns' hns hf => ?_
  have hrest := hns.dropWhile
  cases hd : ns.dropWhile Node.isComment with
  | nil => simp [hd] at hf
  | cons base suffixes =>
    simp only [hd, Option.some.injEq] at hf
    rw [hd] at hrest
    obtain ⟨hbase, hsuffixes⟩ := List.forall_mem_cons.1 hrest
    rw [← hf]
    exact hns.quiet_wrapped
      (quiet_attachSuffixes (List.forall_mem_nil _) hsuffixes hbase (isComment_of_dropWhile hd))

theorem rows_operandNode (h : Rows .plain p) : Rows .plain (operandNode p) := by
  refine .build h fun ns ns' hns hf => ?_
  have hrest := hns.dropWhile
  split at hf
  · cases hf
  · rw [← Option.some.inj hf]
    exact hns
  · next base rest _ hd =>
    rw [hd] at hrest
    obtain ⟨hbase, hrest⟩ := List.forall_mem_cons.1 hrest
    split at hf
    · split at hf
      · rw [← Option.some.inj hf]
        refine hns.quiet_wrapped (quiet_branch rfl rfl (fun hk => by cases hk) ?_)
        exact List.forall_mem_cons.2 ⟨hbase.1.declaring.withLabel _, fun n hn => (hrest n hn).1.declaring⟩
      · cases hf
    · rw [← Option.some.inj hf]
      exact hns.quiet_other

/-! ## Rules -/

/-- The proof goes down each expression; what is left at its terminals, rules and nodes is what is known of them. -/
theorem rows_rules (r : Rule) : Rows r.mode (rules r) := by
  cases r
  all_goals
    repeat first
      | rfl
      | apply rows_terminal
      | apply rows_rule
      | apply rows_named_here
      | apply rows_named_later
      | apply rows_body
      | apply rows_bodied_later
      | apply rows_seq
      | apply rows_alt
      | apply rows_node
      | apply rows_label_any
      | apply rows_label
      | apply rows_empty
      | apply rows_ahead
      | apply rows_absent
      | apply rows_star
      | apply rows_onlyKinds
      | apply rows_collapse
      | apply rows_suffixed
      | apply rows_operandNode

/-- The declarations in every tree of a source text are right. -/
theorem parseTree_declaring {source : String} {root : Node} (h : parseTree source = .ok root) : root.Declaring := by
  unfold parseTree at h
  cases hts : tokens source with
  | error row => simp [hts] at h
  | ok ts =>
    simp only [hts] at h
    rcases hparse : (grammar ts.toArray).parse ts.toArray.size .program with ⟨_ | ⟨nodes, last⟩, far⟩
    · simp only [hparse, reduceCtorEq] at h
    · simp only [hparse, Except.ok.injEq] at h
      rw [← h]
      have hrule : Rows .free (.rule .program) := rows_rule rfl
      have hnodes : Row .free nodes :=
        Grammar.run_gives (fun _ _ _ _ => stepToken_reads) rows_rules hrule (congrArg Parsed.result hparse)
      exact .intro (declares_of_not_isMember rfl nodes) fun n hn => (hnodes.each n hn).1.declaring

end ConfigCoverage.Java
