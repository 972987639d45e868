import ConfigCoverage.Proofs.JavaDeclarations

/-!
# The methods of a Java file

The methods of a file are collected in two ways. From a declaration of a type the way leads through the label of its
body; from a body, through the kinds of its children. Both ways together find every method of the types of the file once,
and none that stands in an expression, in another method or in a type of another sort.

* `Node.descend?`: the node at a place in a tree, with the nodes above it.
* `Node.members`: the methods with their places, by one walk over the tree.
* `Node.mem_membersAll_iff`: a method is found iff all nodes between the root and it are types and bodies of types.
* `map_collectAll`: the methods of a file are those that the walk finds.
-/

namespace ConfigCoverage.Java

/-- What a method of a type may stand below: types and their bodies. -/
def Kind.isContainer (k : Kind) : Bool := k.isTypeDeclaration || k.isTypeBody

namespace Node

/-! ## Places -/

/-- The node at a place, with the nodes above it from the top. A place is the list of the numbers of the children on the
way down. -/
def descend? : Node → List Nat → Option (List Node × Node)
  | n, [] => some ([], n)
  | n, i :: place => n.children[i]?.bind fun c => (descend? c place).map fun way => (n :: way.1, way.2)

/-- The place `p` comes before the place `q`: where the ways to them part, the one to `p` takes an earlier child. -/
def Precedes (p q : List Nat) : Prop :=
  ∃ stem i j p' q', p = stem ++ i :: p' ∧ q = stem ++ j :: q' ∧ i < j

variable {n m root : Node} {as cs : List Node} {place p q : List Nat} {i : Nat}

theorem Precedes.cons (h : Precedes p q) (i : Nat) : Precedes (i :: p) (i :: q) := by
  obtain ⟨stem, j, k, p', q', rfl, rfl, hjk⟩ := h
  exact ⟨i :: stem, j, k, p', q', rfl, rfl, hjk⟩

theorem Precedes.of_lt {j : Nat} (h : i < j) (p q : List Nat) : Precedes (i :: p) (j :: q) :=
  ⟨[], i, j, p, q, rfl, rfl, h⟩

theorem Precedes.ne (h : Precedes p q) : p ≠ q := by
  obtain ⟨stem, i, j, p', q', rfl, rfl, hij⟩ := h
  intro heq
  have hhead := List.append_cancel_left heq
  cases hhead
  omega

theorem descend?_nil : n.descend? [] = some (as, m) ↔ as = [] ∧ n = m := by
  rw [descend?, Option.some.injEq, Prod.mk.injEq, eq_comm (a := [])]

theorem descend?_cons : n.descend? (i :: place) = some (as, m) ↔
    ∃ c as', n.children[i]? = some c ∧ c.descend? place = some (as', m) ∧ as = n :: as' := by
  rw [descend?, Option.bind_eq_some_iff]
  constructor
  · rintro ⟨c, hc, h⟩
    obtain ⟨⟨as', _⟩, hway, heq⟩ := Option.map_eq_some_iff.1 h
    cases heq
    exact ⟨c, as', hc, hway, rfl⟩
  · rintro ⟨c, as', hc, hway, rfl⟩
    exact ⟨c, hc, by rw [hway]; rfl⟩

/-- A way has the ways to the nodes on it as parts. -/
theorem exists_descend?_append (h : root.descend? (p ++ q) = some (as, n)) :
    ∃ bs a cs, root.descend? p = some (bs, a) ∧ a.descend? q = some (cs, n) ∧ as = bs ++ cs := by
  induction p generalizing root as with
  | nil => exact ⟨[], root, as, rfl, h, rfl⟩
  | cons i p ih =>
    obtain ⟨c, as', hc, hway, rfl⟩ := descend?_cons.1 h
    obtain ⟨bs, a, cs, ha, hn, rfl⟩ := ih hway
    exact ⟨root :: bs, a, cs, descend?_cons.2 ⟨c, bs, hc, ha, rfl⟩, hn, rfl⟩

/-- The first node above a place is the one that the way starts from, if the place is not its own. -/
theorem eq_or_exists_of_descend? (h : root.descend? place = some (as, n)) : n = root ∨ ∃ as', as = root :: as' := by
  cases place with
  | nil => exact .inl (descend?_nil.1 h).2.symm
  | cons i place =>
    obtain ⟨c, as', -, -, rfl⟩ := descend?_cons.1 h
    exact .inr ⟨as', rfl⟩

theorem Declaring.descend? (h : root.Declaring) (hway : root.descend? place = some (as, n)) : n.Declaring := by
  induction place generalizing root as with
  | nil =>
    obtain ⟨-, rfl⟩ := descend?_nil.1 hway
    exact h
  | cons i place ih =>
    obtain ⟨c, as', hc, hway, -⟩ := descend?_cons.1 hway
    exact ih (h.child (List.mem_of_getElem? hc)) hway

/-! ### Texts -/

/-- The texts of two nodes stand one behind the other in the text of a tree. -/
def SpellsInOrder (root n m : Node) : Prop :=
  ∃ before between after, root.spaced = before ++ n.spaced ++ between ++ m.spaced ++ after

theorem spacedAll_append (cs ds : List Node) : spacedAll (cs ++ ds) = spacedAll cs ++ spacedAll ds := by
  induction cs with
  | nil => simp [spacedAll]
  | cons c cs ih => rw [List.cons_append, spacedAll, spacedAll, ih, String.append_assoc]

/-- The text of a node within the texts of a row. -/
theorem spacedAll_of_getElem? (h : cs[i]? = some n) :
    spacedAll cs = spacedAll (cs.take i) ++ n.spaced ++ spacedAll (cs.drop (i + 1)) := by
  have hsplit : cs.take i ++ n :: cs.drop (i + 1) = cs := by
    obtain ⟨hi, rfl⟩ := List.getElem?_eq_some_iff.1 h
    rw [← List.drop_eq_getElem_cons hi, List.take_append_drop]
  have hspaced := spacedAll_append (cs.take i) (n :: cs.drop (i + 1))
  rwa [hsplit, spacedAll, ← String.append_assoc] at hspaced

theorem spaced_of_child (h : n.children[i]? = some m) : n.spaced = spacedAll n.children := by
  cases n with
  | leaf => cases h
  | branch => rw [spaced, children]

/-- The text of a node in a tree stands in the text of the tree. -/
theorem spaced_of_descend? (h : root.descend? place = some (as, n)) :
    ∃ before after, root.spaced = before ++ n.spaced ++ after := by
  induction place generalizing root as with
  | nil =>
    obtain ⟨-, rfl⟩ := descend?_nil.1 h
    exact ⟨"", "", by simp⟩
  | cons i place ih =>
    obtain ⟨c, as', hc, hway, -⟩ := descend?_cons.1 h
    obtain ⟨before, after, hspaced⟩ := ih hway
    refine ⟨spacedAll (root.children.take i) ++ before, after ++ spacedAll (root.children.drop (i + 1)), ?_⟩
    rw [spaced_of_child hc, spacedAll_of_getElem? hc, hspaced]
    simp only [String.append_assoc]

/-- What comes earlier in a tree comes earlier in its text. The induction is on the way that both have in common. -/
theorem spellsInOrder_of_precedes {bs : List Node} (h : Precedes p q) (hn : root.descend? p = some (as, n))
    (hm : root.descend? q = some (bs, m)) : root.SpellsInOrder n m := by
  obtain ⟨stem, i, j, p', q', rfl, rfl, hij⟩ := h
  induction stem generalizing root as bs with
  | nil =>
    obtain ⟨c, as', hc, hn, -⟩ := descend?_cons.1 hn
    obtain ⟨d, bs', hd, hm, -⟩ := descend?_cons.1 hm
    obtain ⟨before, between, hn⟩ := spaced_of_descend? hn
    obtain ⟨between', after, hm⟩ := spaced_of_descend? hm
    -- Here the ways part, so the earlier child is among those before the later one.
    have hc' : (root.children.take j)[i]? = some c := by rw [List.getElem?_take_of_lt hij, hc]
    refine ⟨spacedAll ((root.children.take j).take i) ++ before,
      between ++ spacedAll ((root.children.take j).drop (i + 1)) ++ between',
      after ++ spacedAll (root.children.drop (j + 1)), ?_⟩
    rw [spaced_of_child hd, spacedAll_of_getElem? hd, spacedAll_of_getElem? hc', hn, hm]
    simp only [String.append_assoc]
  | cons k stem ih =>
    obtain ⟨c, as', hc, hn, -⟩ := descend?_cons.1 hn
    obtain ⟨d, bs', hd, hm, -⟩ := descend?_cons.1 hm
    cases hc.symm.trans hd
    obtain ⟨before, between, after, hspaced⟩ := ih hn hm
    refine ⟨spacedAll (root.children.take k) ++ before, between, after ++ spacedAll (root.children.drop (k + 1)), ?_⟩
    rw [spaced_of_child hc, spacedAll_of_getElem? hc, hspaced]
    simp only [String.append_assoc]

/-! ## Members -/

mutual

/-- The methods in a node and the types in it, with their places below it. -/
def members : Node → List (List Nat × Node)
  | leaf kind label piece => if kind = .methodDeclaration then [([], leaf kind label piece)] else []
  | branch kind label cs =>
    if kind = .methodDeclaration then [([], branch kind label cs)]
    else if kind.isContainer then membersAll 0 cs
    else []

/-- The methods in nodes that are numbered from `i` on. -/
def membersAll (i : Nat) : List Node → List (List Nat × Node)
  | [] => []
  | c :: cs => c.members.map (fun e => (i :: e.1, e.2)) ++ membersAll (i + 1) cs

end

theorem members_eq (n : Node) : n.members =
    if n.kind = .methodDeclaration then [([], n)] else if n.kind.isContainer then membersAll 0 n.children else [] := by
  cases n with
  | leaf => rw [members, children, membersAll, ite_self]; rfl
  | branch => rw [members, children, kind]

theorem mem_membersAll : (place, n) ∈ membersAll i cs ↔
    ∃ j c below, place = (i + j) :: below ∧ cs[j]? = some c ∧ (below, n) ∈ c.members := by
  induction cs generalizing i with
  | nil => simp [membersAll]
  | cons c cs ih =>
    rw [membersAll, List.mem_append, ih, List.mem_map]
    constructor
    · rintro (⟨⟨below, _⟩, hc, heq⟩ | ⟨j, d, below, rfl, hd, hbelow⟩)
      · cases heq
        exact ⟨0, c, below, rfl, rfl, hc⟩
      · exact ⟨j + 1, d, below, by rw [Nat.add_right_comm, Nat.add_assoc], hd, hbelow⟩
    · rintro ⟨_ | j, d, below, rfl, hd, hbelow⟩
      · cases hd
        exact .inl ⟨(below, n), hbelow, rfl⟩
      · exact .inr ⟨j, d, below, by rw [Nat.add_right_comm, Nat.add_assoc], hd, hbelow⟩

/-- A method declaration at a place below the root, such that all nodes between the root and it are types and bodies of
types. -/
def HasMethod (root : Node) (place : List Nat) (n : Node) : Prop :=
  n.kind = .methodDeclaration ∧
    ∃ as, root.descend? place = some (root :: as, n) ∧ ∀ a ∈ as, a.kind.isContainer = true

/-- The walk finds a method iff it comes through types and their bodies only. The induction is on the place. -/
theorem mem_members_iff : (place, n) ∈ m.members ↔
    n.kind = .methodDeclaration ∧ ∃ as, m.descend? place = some (as, n) ∧ ∀ a ∈ as, a.kind.isContainer = true := by
  induction place generalizing m with
  | nil =>
    simp only [descend?_nil]
    rw [members_eq]
    constructor
    · intro h
      split at h
      · next hkind =>
        cases List.mem_singleton.1 h
        exact ⟨hkind, [], ⟨rfl, rfl⟩, List.forall_mem_nil _⟩
      · split at h
        · obtain ⟨_, _, _, hplace, -⟩ := mem_membersAll.1 h
          cases hplace
        · cases h
    · rintro ⟨hkind, _, ⟨-, rfl⟩, -⟩
      rw [if_pos hkind]
      exact List.mem_singleton_self _
  | cons i place ih =>
    simp only [descend?_cons]
    rw [members_eq]
    constructor
    · intro h
      split at h
      · -- Nothing is looked for inside a method.
        cases List.mem_singleton.1 h
      · split at h
        · next hcontainer =>
          obtain ⟨j, c, below, hplace, hc, hbelow⟩ := mem_membersAll.1 h
          rw [Nat.zero_add] at hplace
          cases hplace
          obtain ⟨hkind, as, hway, has⟩ := ih.1 hbelow
          exact ⟨hkind, m :: as, ⟨c, as, hc, hway, rfl⟩, List.forall_mem_cons.2 ⟨hcontainer, has⟩⟩
        · cases h
    · rintro ⟨hkind, _, ⟨c, as, hc, hway, rfl⟩, has⟩
      obtain ⟨hcontainer, has⟩ := List.forall_mem_cons.1 has
      have hmethod : m.kind ≠ .methodDeclaration := fun hm => by
        rw [hm] at hcontainer
        cases hcontainer
      rw [if_neg hmethod, if_pos hcontainer]
      exact mem_membersAll.2 ⟨i, c, place, by rw [Nat.zero_add], hc, ih.2 ⟨hkind, as, hway, has⟩⟩

theorem mem_membersAll_iff : (place, n) ∈ membersAll 0 root.children ↔ root.HasMethod place n := by
  rw [mem_membersAll]
  constructor
  · rintro ⟨j, c, below, rfl, hc, hbelow⟩
    obtain ⟨hkind, as, hway, has⟩ := mem_members_iff.1 hbelow
    rw [Nat.zero_add]
    exact ⟨hkind, as, descend?_cons.2 ⟨c, as, hc, hway, rfl⟩, has⟩
  · rintro ⟨hkind, as, hway, has⟩
    cases place with
    | nil => cases (descend?_nil.1 hway).1
    | cons j below =>
      obtain ⟨c, _, hc, hway, heq⟩ := descend?_cons.1 hway
      cases heq
      exact ⟨j, c, below, by rw [Nat.zero_add], hc, mem_members_iff.2 ⟨hkind, as, hway, has⟩⟩

mutual

/-- The walk finds the methods in the order of their places. -/
theorem pairwise_members : ∀ n : Node, n.members.Pairwise fun a b => Precedes a.1 b.1
  | leaf _ _ _ => by
    rw [members]
    split
    · exact List.pairwise_singleton _ _
    · exact .nil
  | branch _ _ cs => by
    rw [members]
    split
    · exact List.pairwise_singleton _ _
    · split
      · exact pairwise_membersAll 0 cs
      · exact .nil

theorem pairwise_membersAll : ∀ (i : Nat) (cs : List Node), (membersAll i cs).Pairwise fun a b => Precedes a.1 b.1
  | _, [] => .nil
  | i, c :: cs => by
    rw [membersAll, List.pairwise_append]
    refine ⟨List.pairwise_map.2 ((pairwise_members c).imp fun h => h.cons i), pairwise_membersAll (i + 1) cs, ?_⟩
    intro a ha b hb
    obtain ⟨e, -, rfl⟩ := List.mem_map.1 ha
    obtain ⟨j, _, below, hplace, -⟩ := mem_membersAll.1 hb
    rw [hplace]
    exact .of_lt (by omega) e.1 below

end

end Node

/-! ## Collecting -/

theorem collectMethods_of_isPlain {n : Node} (h : n.isPlain = true) : collectMethods n = [] := by
  have hkind := Node.isMember_of_isPlain h
  cases n with
  | leaf => rfl
  | branch kind _ cs => cases kind <;> first | rfl | cases hkind

theorem collectAll_of_plain {cs : List Node} (h : cs.filter (fun c => !c.isPlain) = []) : collectAll cs = [] := by
  induction cs with
  | nil => rfl
  | cons c cs ih =>
    have hplain : c.isPlain = true := by simpa using List.filter_eq_nil_iff.1 h c List.mem_cons_self
    rw [collectAll, collectMethods_of_isPlain hplain, ih (by simpa [hplain] using h)]
    rfl

/-- The way through the label of the body finds what the way through the kinds of the children finds. -/
theorem collectBody_eq {cs : List Node} {b : Node} (h : cs.filter (fun c => !c.isPlain) = [b])
    (hlabel : b.label = some .body) (hkind : b.kind.isTypeBody = true) : collectBody cs = collectAll cs := by
  induction cs with
  | nil => cases h
  | cons c cs ih =>
    rw [collectBody, collectAll]
    -- Before the body nothing is found on either way. Behind it the way through the label looks no further, and all
    -- that is left is plain.
    by_cases hplain : c.isPlain = true
    · have hc : c.label ≠ some .body := bne_iff_ne.1 (Bool.and_eq_true_iff.1 hplain).2
      rw [if_neg hc, collectMethods_of_isPlain hplain, List.nil_append]
      exact ih (by simpa [hplain] using h)
    · obtain ⟨rfl, hrest⟩ : c = b ∧ cs.filter (fun c => !c.isPlain) = [] := by simpa [hplain] using h
      rw [if_pos hlabel, collectAll_of_plain hrest, List.append_nil]
      cases c with
      | leaf => rfl
      | branch kind _ cs => cases kind <;> first | rfl | cases hkind

/-- What a node contributes if its declarations are right. -/
theorem collectMethods_eq {n : Node} (h : n.Declaring) : collectMethods n =
    if n.kind = .methodDeclaration then (lowerMethod n).toList
    else if n.kind.isContainer then collectAll n.children else [] := by
  cases n with
  | leaf kind label piece =>
    have hmethod : lowerMethod (.leaf kind label piece) = none := rfl
    rw [collectMethods, hmethod, Node.children, collectAll, Option.toList_none, ite_self, ite_self]
  | branch kind label cs =>
    have hbody : kind.isTypeDeclaration = true → _ := h.declares.body
    rw [collectMethods, Node.kind, Node.children, Kind.isContainer]
    congr 1
    by_cases htype : kind.isTypeDeclaration = true
    · obtain ⟨b, hfilter, hlabel, hkind⟩ := hbody htype
      rw [if_pos htype, htype, Bool.true_or, if_pos rfl]
      exact collectBody_eq hfilter hlabel hkind
    · rw [if_neg htype, Bool.not_eq_true _ |>.mp htype, Bool.false_or]

theorem isSome_lowerMethod {n : Node} (h : n.Declaring) (hkind : n.kind = .methodDeclaration) :
    (lowerMethod n).isSome = true := by
  obtain ⟨c, hc, hname⟩ := h.declares.name hkind
  rw [lowerMethod, Option.isSome_map, Node.child?, List.find?_isSome]
  exact ⟨c, hc, by simp [hname]⟩

theorem map_collectAll {cs : List Node} (h : ∀ c ∈ cs, (collectMethods c).map some = c.members.map (lowerMethod ·.2))
    (i : Nat) : (collectAll cs).map some = (Node.membersAll i cs).map (lowerMethod ·.2) := by
  induction cs generalizing i with
  | nil => rfl
  | cons c cs ih =>
    obtain ⟨hc, hcs⟩ := List.forall_mem_cons.1 h
    rw [collectAll, Node.membersAll, List.map_append, List.map_append, hc, ih hcs, List.map_map]
    rfl

/-- The methods of a node are those that the walk finds. -/
theorem map_collectMethods {n : Node} (h : n.Declaring) :
    (collectMethods n).map some = n.members.map (lowerMethod ·.2) := by
  induction h with
  | @intro n hdeclares hcs ih =>
    have h : n.Declaring := .intro hdeclares hcs
    rw [collectMethods_eq h, Node.members_eq]
    split
    · next hkind =>
      obtain ⟨method, hmethod⟩ := Option.isSome_iff_exists.1 (isSome_lowerMethod h hkind)
      rw [hmethod, List.map_singleton, hmethod]
      rfl
    · split
      · exact map_collectAll ih 0
      · rfl

/-! ## Bodies -/

/-- The one child of a type that is not plain is its body. -/
theorem Node.Declaring.child?_body {n c : Node} (h : n.Declaring) (htype : n.kind.isTypeDeclaration = true)
    (hc : c ∈ n.children) (hmember : c.kind.isMember = true) : n.child? .body = some c := by
  obtain ⟨b, hfilter, hlabel, -⟩ := h.declares.body htype
  have hplain : c.isPlain = false := by rw [Node.isPlain, hmember]; rfl
  have hmem : c ∈ n.children.filter (fun c => !c.isPlain) := List.mem_filter.2 ⟨hc, by rw [hplain]; rfl⟩
  rw [hfilter, List.mem_singleton] at hmem
  subst hmem
  have hfind : (fun c : Node => c.label == some .body) =
      fun c => decide ((!c.isPlain) = true ∧ (c.label == some .body) = true) := by
    funext d
    by_cases hd : d.label = some .body <;> simp [hd, Node.isPlain]
  rw [Node.child?, hfind, ← List.find?_filter, hfilter, List.find?_singleton, hlabel]
  rfl

theorem Kind.isMember_of_isContainer {k : Kind} (h : k.isContainer = true) : k.isMember = true := by
  cases k <;> first | rfl | cases h

/-- The way from a type to a method below it leads through its body. -/
theorem Node.HasMethod.through_body {root n a : Node} {above below : List Nat} {i : Nat} {as : List Node}
    (h : root.Declaring) (hmethod : root.HasMethod (above ++ i :: below) n) (ha : root.descend? above = some (as, a))
    (htype : a.kind.isTypeDeclaration = true) : a.children[i]? = a.child? .body := by
  obtain ⟨hkind, between, hway, hbetween⟩ := hmethod
  obtain ⟨bs, a', _, ha', hrest, hsplit⟩ := exists_descend?_append hway
  cases ha.symm.trans ha'
  obtain ⟨c, cs, hc, hn, rfl⟩ := descend?_cons.1 hrest
  -- The next node on the way is the method or stands above it.
  have hmember : c.kind.isMember = true := by
    rcases eq_or_exists_of_descend? hn with rfl | ⟨cs', rfl⟩
    · rw [hkind]
      rfl
    · refine Kind.isMember_of_isContainer (hbetween c ?_)
      cases as with
      | nil =>
        cases hsplit
        exact List.mem_cons_self
      | cons b as =>
        cases hsplit
        simp
  rw [hc, (h.descend? ha).child?_body htype (List.mem_of_getElem? hc) hmember]

/-! ## Files -/

/-- The list names the methods of the types of a tree with their places, each once and in the order of the source. -/
structure Node.Enumerates (root : Node) (ms : List (List Nat × Node)) : Prop where
  complete : ∀ place n, (place, n) ∈ ms ↔ root.HasMethod place n
  once : (ms.map Prod.fst).Nodup
  ordered : ms.Pairwise fun e e' => Node.Precedes e.1 e'.1 ∧ root.SpellsInOrder e.2 e'.2
  /-- The way from a type to a method below it leads through its body. -/
  through_body : ∀ above i below n, (above ++ i :: below, n) ∈ ms → ∀ as a, root.descend? above = some (as, a) →
    a.kind.isTypeDeclaration = true → a.children[i]? = a.child? .body

theorem Node.enumerates_membersAll {root : Node} (h : root.Declaring) : root.Enumerates (membersAll 0 root.children) := by
  have hmem : ∀ place n, (place, n) ∈ membersAll 0 root.children ↔ root.HasMethod place n := fun _ _ => mem_membersAll_iff
  have hpairwise := pairwise_membersAll 0 root.children
  refine ⟨hmem, ?_, ?_, ?_⟩
  · exact List.pairwise_map.2 (hpairwise.imp fun h => h.ne)
  · refine hpairwise.imp_of_mem fun {e e'} he he' hprecedes => ⟨hprecedes, ?_⟩
    obtain ⟨-, _, hway, -⟩ := (hmem e.1 e.2).1 he
    obtain ⟨-, _, hway', -⟩ := (hmem e'.1 e'.2).1 he'
    exact spellsInOrder_of_precedes hprecedes hway hway'
  · intro above i below n hn as a ha htype
    exact ((hmem _ n).1 hn).through_body h ha htype

/-- **The methods of a file are those of its types, each once and in the order of the source.** A method declaration is
among them iff all nodes between the root and it are declarations of classes, interfaces, enums or records, of which the
way leads through the body, and bodies of these. So none of them stands in an anonymous class, in the body of an enum
constant, in a local class, in a lambda or in an annotation type. This holds of every tree of a source text. -/
theorem lowerFile_enumerates_methods :
    (∀ source root, parseTree source = .ok root → root.Declaring) ∧
    ∀ (name : String) (root : Node), root.Declaring → ∃ ms : List (List Nat × Node), root.Enumerates ms ∧
      (lowerFile name root).methods.map some = ms.map fun e => lowerMethod e.2 := by
  refine ⟨fun _ _ => parseTree_declaring, fun name root h => ⟨_, Node.enumerates_membersAll h, ?_⟩⟩
  exact map_collectAll (fun c hc => map_collectMethods (h.child hc)) 0

/-- An enum with two methods of its own or of a type in it, and three others: in the body of a constant, in an anonymous
class and in a local class. -/
def sidedEnum : String :=
  "enum E\x7bV\x7bvoid x()\x7b\x7d\x7d;Object o=new B()\x7bvoid y()\x7b\x7d\x7d;" ++
  "void a()\x7bclass L\x7bvoid z()\x7b\x7d\x7d\x7dinterface I\x7bvoid b();\x7d\x7d"

theorem lowerFile_enumerates_methods_sidedEnum : ∃ root, parseTree sidedEnum = .ok root ∧ root.Declaring ∧
    (lowerFile "E.java" root).methods.map Method.name = ["a", "b"] ∧
    ∃ ms : List (List Nat × Node), root.Enumerates ms ∧
      (lowerFile "E.java" root).methods.map some = ms.map fun e => lowerMethod e.2 := by
  have hnames : (parseTree sidedEnum).toOption.map (fun root => (lowerFile "E.java" root).methods.map Method.name) =
      some ["a", "b"] := by decide +kernel
  obtain ⟨root, hroot, hnames⟩ := Option.map_eq_some_iff.1 hnames
  have hparse := eq_ok_of_toOption hroot
  have hdeclaring := lowerFile_enumerates_methods.1 sidedEnum root hparse
  exact ⟨root, hparse, hdeclaring, hnames, lowerFile_enumerates_methods.2 "E.java" root hdeclaring⟩

end ConfigCoverage.Java
