import ConfigCoverage.FileTree.Analysis
import ConfigCoverage.FileTree.Walk
import ConfigCoverage.FileTree.Write

/-!
# The order in which directories list their entries

A directory lists its entries in some order. Which file a path leads to, what is in it and what rules say of it does not
depend on that order; a walk comes upon the same items, in another order. Nor does it depend on the order what can be
written, and the same files are there afterwards.

* `FileNode.SameFiles`, `FileTree.SameFiles`: the same files, up to the order of entries.
* `FileNode.WellNamed`: no directory lists a name twice, or a name with a slash.
* `FileTree.SameFiles.resolveIn_eq`, `FileTree.SameFiles.readIn_eq`: a path leads to the same place and the same contents.
* `FileTree.SameFiles.walk_perm`: the items of a walk are the same.
* `FileTree.SameFiles.write_cases`, `FileTree.SameFiles.makeAll`: the same can be written.
-/

namespace ConfigCoverage

/-! ## Nodes -/

namespace FileNode

/-- The same files: two directories list the same names, in whatever order, and what stands under a name is the same. -/
inductive SameFiles : FileNode → FileNode → Prop
  | file (contents : ByteArray) : SameFiles (.file contents) (.file contents)
  | link (target : String) : SameFiles (.link target) (.link target)
  | directory {es fs : List (String × FileNode)} : (es.map Prod.fst).Perm (fs.map Prod.fst) →
      (∀ name m n, (name, m) ∈ es → (name, n) ∈ fs → SameFiles m n) → SameFiles (.directory es) (.directory fs)

theorem mem_of_lookup {es : List (String × FileNode)} {name : String} {n : FileNode} (h : es.lookup name = some n) :
    (name, n) ∈ es := by
  obtain ⟨before, after, rfl, -⟩ := List.lookup_eq_some_iff.1 h
  simp

theorem lookup_eq_none_iff_not_mem {es : List (String × FileNode)} {name : String} :
    es.lookup name = none ↔ name ∉ es.map Prod.fst := by
  rw [List.lookup_eq_none_iff]
  simp only [bne_iff_ne, List.mem_map, not_exists, not_and]
  exact forall₂_congr fun e _ => ne_comm

/-- Both have nothing, or the same files. -/
def SameOption (m n : Option FileNode) : Prop :=
  (m = none ∧ n = none) ∨ ∃ a b, m = some a ∧ n = some b ∧ SameFiles a b

theorem sameOption_lookup {es fs : List (String × FileNode)} (names : (es.map Prod.fst).Perm (fs.map Prod.fst))
    (h : ∀ name m n, (name, m) ∈ es → (name, n) ∈ fs → SameFiles m n) (name : String) :
    SameOption (es.lookup name) (fs.lookup name) := by
  cases he : es.lookup name with
  | none =>
    refine .inl ⟨rfl, ?_⟩
    rw [lookup_eq_none_iff_not_mem, ← names.mem_iff, ← lookup_eq_none_iff_not_mem]
    exact he
  | some m =>
    cases hf : fs.lookup name with
    | none =>
      rw [lookup_eq_none_iff_not_mem, ← names.mem_iff, ← lookup_eq_none_iff_not_mem, he] at hf
      cases hf
    | some n => exact .inr ⟨m, n, rfl, rfl, h name m n (mem_of_lookup he) (mem_of_lookup hf)⟩

/-- The same files are at every place. -/
theorem SameFiles.get? {m n : FileNode} (h : SameFiles m n) (place : Place) :
    SameOption (m.get? place) (n.get? place) := by
  induction place generalizing m n with
  | nil => exact .inr ⟨m, n, by rw [FileNode.get?], by rw [FileNode.get?], h⟩
  | cons name place ih =>
    cases h with
    | file | link => exact .inl ⟨rfl, rfl⟩
    | directory names h =>
      rw [FileNode.get?, FileNode.get?]
      rcases sameOption_lookup names h name with ⟨he, hf⟩ | ⟨a, b, he, hf, hab⟩
      · exact .inl ⟨by rw [he]; rfl, by rw [hf]; rfl⟩
      · rw [he, hf]
        exact ih hab

theorem mem_of_mem_putEntry {es : List (String × FileNode)} {name key : String} {node m : FileNode}
    (h : (key, m) ∈ putEntry name node es) : (key = name ∧ m = node) ∨ (key ≠ name ∧ (key, m) ∈ es) := by
  unfold putEntry at h
  split at h
  · obtain ⟨e, he, heq⟩ := List.mem_map.1 h
    by_cases hk : e.1 = name
    · rw [if_pos hk] at heq
      cases heq
      exact .inl ⟨rfl, rfl⟩
    · rw [if_neg hk] at heq
      subst heq
      exact .inr ⟨hk, he⟩
  · rename_i hany
    rcases List.mem_append.1 h with hm | hm
    · refine .inr ⟨?_, hm⟩
      rintro rfl
      exact hany (List.any_eq_true.2 ⟨(key, m), hm, beq_self_eq_true key⟩)
    · cases List.mem_singleton.1 hm
      exact .inl ⟨rfl, rfl⟩

theorem map_fst_putEntry (name : String) (node : FileNode) (es : List (String × FileNode)) :
    (putEntry name node es).map Prod.fst =
      if name ∈ es.map Prod.fst then es.map Prod.fst else es.map Prod.fst ++ [name] := by
  have hany : es.any (·.1 == name) = true ↔ name ∈ es.map Prod.fst := by simp
  unfold putEntry
  by_cases hn : name ∈ es.map Prod.fst
  · rw [if_pos (hany.2 hn), if_pos hn, List.map_map]
    refine List.map_congr_left fun e _ => ?_
    by_cases hk : e.1 = name <;> simp [hk]
  · rw [if_neg (mt hany.1 hn), if_neg hn, List.map_append]
    rfl

/-- The same entry may be put into directories with the same files. -/
theorem SameFiles.putEntry {es fs : List (String × FileNode)} {node : FileNode}
    (h : SameFiles (.directory es) (.directory fs)) (hnode : node.SameFiles node) (name : String) :
    SameFiles (.directory (putEntry name node es)) (.directory (putEntry name node fs)) := by
  cases h with
  | directory names h =>
    constructor
    · rw [map_fst_putEntry, map_fst_putEntry]
      by_cases hn : name ∈ es.map Prod.fst
      · rw [if_pos hn, if_pos (names.mem_iff.1 hn)]
        exact names
      · rw [if_neg hn, if_neg (mt names.mem_iff.2 hn)]
        exact names.append_right _
    · intro key m n hm hn
      rcases mem_of_mem_putEntry hm with ⟨rfl, rfl⟩ | ⟨hk, hm⟩
      · rcases mem_of_mem_putEntry hn with ⟨-, rfl⟩ | ⟨hk, -⟩
        · exact hnode
        · exact absurd rfl hk
      · rcases mem_of_mem_putEntry hn with ⟨rfl, -⟩ | ⟨-, hn⟩
        · exact absurd rfl hk
        · exact h key m n hm hn

/-- Change what stands under a name. -/
def changeEntry (name : String) (change : FileNode → FileNode) (e : String × FileNode) : String × FileNode :=
  if e.1 = name then (e.1, change e.2) else (e.1, e.2)

theorem mem_of_mem_map_changeEntry {es : List (String × FileNode)} {name key : String} {change : FileNode → FileNode}
    {m : FileNode} (h : (key, m) ∈ es.map (changeEntry name change)) :
    ∃ m', (key, m') ∈ es ∧ m = if key = name then change m' else m' := by
  obtain ⟨⟨k, m'⟩, hm, heq⟩ := List.mem_map.1 h
  unfold changeEntry at heq
  by_cases hk : k = name
  · rw [if_pos hk] at heq
    cases heq
    exact ⟨m', hm, (if_pos hk).symm⟩
  · rw [if_neg hk] at heq
    cases heq
    exact ⟨m', hm, (if_neg hk).symm⟩

theorem map_fst_changeEntry (es : List (String × FileNode)) (name : String) (change : FileNode → FileNode) :
    (es.map (changeEntry name change)).map Prod.fst = es.map Prod.fst := by
  rw [List.map_map]
  refine List.map_congr_left fun e _ => ?_
  rw [Function.comp_apply, changeEntry]
  split <;> rfl

/-- The entries of one directory may be changed in both. -/
theorem SameFiles.modify {m n : FileNode} (h : SameFiles m n)
    {f : List (String × FileNode) → List (String × FileNode)}
    (hf : ∀ es fs, SameFiles (.directory es) (.directory fs) → SameFiles (.directory (f es)) (.directory (f fs)))
    (place : Place) : SameFiles (m.modify f place) (n.modify f place) := by
  induction place generalizing m n with
  | nil =>
    cases h with
    | file | link => constructor
    | directory names h =>
      rw [FileNode.modify, FileNode.modify]
      exact hf _ _ (.directory names h)
  | cons name place ih =>
    cases h with
    | file | link => constructor
    | @directory es fs names h =>
      rw [FileNode.modify, FileNode.modify]
      change SameFiles (.directory (es.map (changeEntry name (FileNode.modify f place))))
        (.directory (fs.map (changeEntry name (FileNode.modify f place))))
      refine .directory ?_ fun key a b ha hb => ?_
      · rw [map_fst_changeEntry, map_fst_changeEntry]
        exact names
      · obtain ⟨a', ha', rfl⟩ := mem_of_mem_map_changeEntry ha
        obtain ⟨b', hb', rfl⟩ := mem_of_mem_map_changeEntry hb
        split
        · exact ih (h key a' b' ha' hb')
        · exact h key a' b' ha' hb'

/-- A place below another one. -/
theorem get?_append (n : FileNode) (place more : Place) :
    n.get? (place ++ more) = (n.get? place).bind (FileNode.get? more) := by
  induction place generalizing n with
  | nil => simp [FileNode.get?]
  | cons name place ih =>
    cases n with
    | file | link => rfl
    | directory entries =>
      rw [List.cons_append, FileNode.get?, FileNode.get?]
      cases entries.lookup name with
      | none => rfl
      | some child => exact ih child

/-- No directory lists a name twice, or a name with a slash. -/
inductive WellNamed : FileNode → Prop
  | file (contents : ByteArray) : WellNamed (.file contents)
  | link (target : String) : WellNamed (.link target)
  | directory {entries : List (String × FileNode)} : (entries.map Prod.fst).Nodup →
      (∀ e ∈ entries, '/' ∉ e.1.toList) → (∀ e ∈ entries, WellNamed e.2) → WellNamed (.directory entries)

theorem WellNamed.get? {n m : FileNode} (h : n.WellNamed) {place : Place} (hm : n.get? place = some m) :
    m.WellNamed := by
  induction place generalizing n with
  | nil =>
    rw [FileNode.get?] at hm
    cases hm
    exact h
  | cons name place ih =>
    cases h with
    | file | link => cases hm
    | directory _ _ h =>
      rw [FileNode.get?] at hm
      obtain ⟨child, hl, hm⟩ := Option.bind_eq_some_iff.1 hm
      exact ih (h (name, child) (mem_of_lookup hl)) hm

end FileNode

/-! ## Paths -/

namespace FileTree

theorem get?_append (t : FileTree) (place more : Place) :
    t.get? (place ++ more) = (t.get? place).bind (FileNode.get? more) :=
  t.root.get?_append place more

/-- The same files, seen from the same directory. -/
structure SameFiles (t t' : FileTree) : Prop where
  root : t.root.SameFiles t'.root
  current : t.current = t'.current

namespace SameFiles

variable {t t' : FileTree} (h : t.SameFiles t')
include h

theorem get? (place : Place) : FileNode.SameOption (t.get? place) (t'.get? place) := h.root.get? place

/-- Steps lead to the same halt. -/
theorem advance_eq (followLast : Bool) (place : Place) (steps : List Step) :
    t.advance followLast place steps = t'.advance followLast place steps := by
  induction steps generalizing place with
  | nil => rw [advance, advance]
  | cons step rest ih =>
    rw [advance, advance]
    rcases h.get? place with ⟨ht, ht'⟩ | ⟨m, n, ht, ht', hmn⟩
    · rw [ht, ht']
    · rw [ht, ht']
      cases hmn with
      | file | link => rfl
      | @directory es fs names hsame =>
        cases step with
        | here | up => exact ih _
        | name text =>
          simp only
          rcases FileNode.sameOption_lookup names hsame text with ⟨he, hf⟩ | ⟨a, b, he, hf, hab⟩
          · rw [he, hf]
          · rw [he, hf]
            cases hab with
            | file | directory => simp only [ih]
            | link => rfl

theorem locateFrom_eq (followLast : Bool) (links : Nat) (place : Place) (steps : List Step) :
    t.locateFrom followLast links place steps = t'.locateFrom followLast links place steps := by
  induction links generalizing place steps with
  | zero => rw [locateFrom, locateFrom, h.advance_eq]
  | succ links ih =>
    rw [locateFrom, locateFrom, h.advance_eq]
    simp only [ih]

/-- A path leads to the same place. -/
theorem resolveIn_eq (place : Place) (path : String) : t.resolveIn place path = t'.resolveIn place path := by
  simp only [resolveIn, locateIn, h.locateFrom_eq]

theorem sameOption_nodeIn? (place : Place) (path : String) :
    FileNode.SameOption (t.nodeIn? place path) (t'.nodeIn? place path) := by
  rw [nodeIn?, nodeIn?, h.resolveIn_eq]
  cases t'.resolveIn place path with
  | error e => exact .inl ⟨rfl, rfl⟩
  | ok target => exact h.get? target

theorem isDirectory_eq (path : String) : t.isDirectory path = t'.isDirectory path := by
  rw [isDirectory, isDirectory, h.current]
  rcases h.sameOption_nodeIn? t'.current path with ⟨ht, ht'⟩ | ⟨m, n, ht, ht', hmn⟩
  · rw [ht, ht']
  · rw [ht, ht']
    cases hmn <;> rfl

theorem put {node : FileNode} (hnode : node.SameFiles node) (directory : Place) (name : String) :
    (t.put directory name node).SameFiles (t'.put directory name node) :=
  ⟨h.root.modify (fun _ _ hsame => hsame.putEntry hnode name) directory, h.current⟩

theorem makeDirectory_cases (path : String) :
    (∃ e, t.makeDirectory path = .error e ∧ t'.makeDirectory path = .error e) ∨
    ∃ u u', t.makeDirectory path = .ok u ∧ t'.makeDirectory path = .ok u' ∧ u.SameFiles u' := by
  unfold FileTree.makeDirectory locateIn
  simp only [h.locateFrom_eq, h.current]
  generalize (if path = "" then (.error .notFound : Except FileError Target) else _) = located
  cases located with
  | error e => exact .inl ⟨e, rfl, rfl⟩
  | ok target =>
    cases target with
    | missing directory name =>
      exact .inr ⟨_, _, rfl, rfl, h.put (.directory (.refl _) fun _ _ _ hm => by cases hm) directory name⟩
    | present place => exact .inl ⟨_, rfl, rfl⟩

omit h in
theorem makeFromLast (h : t.SameFiles t') (components : List Path.Component) :
    (t.makeFromLast components).1 = (t'.makeFromLast components).1 ∧
      (t.makeFromLast components).2.SameFiles (t'.makeFromLast components).2 := by
  induction components generalizing t t' with
  | nil => exact ⟨rfl, h⟩
  | cons component above ih =>
    rw [FileTree.makeFromLast, FileTree.makeFromLast]
    dsimp only
    generalize Path.ofComponents (component :: above).reverse = path
    have hsettle : ∀ {u u' : FileTree} (e : FileError), u.SameFiles u' →
        (if u.isDirectory path = true then (none, u) else (some e, u) : Option FileError × FileTree).1 =
          (if u'.isDirectory path = true then (none, u') else (some e, u') : Option FileError × FileTree).1 ∧
        (if u.isDirectory path = true then (none, u) else (some e, u) : Option FileError × FileTree).2.SameFiles
          (if u'.isDirectory path = true then (none, u') else (some e, u') : Option FileError × FileTree).2 := by
      intro u u' e hu
      rw [hu.isDirectory_eq]
      split <;> exact ⟨rfl, hu⟩
    rcases h.makeDirectory_cases path with ⟨e, ht, ht'⟩ | ⟨u, u', ht, ht', hu⟩
    · rw [ht, ht']
      by_cases he : e = .notFound
      · subst he
        dsimp only
        obtain ⟨hresult, hsame⟩ := ih h
        rcases hm : t.makeFromLast above with ⟨_ | _, v⟩ <;> rcases hm' : t'.makeFromLast above with ⟨_ | _, v'⟩ <;>
          rw [hm, hm'] at hresult hsame
        · dsimp only
          rcases hsame.makeDirectory_cases path with ⟨e, hv, hv'⟩ | ⟨u, u', hv, hv', hu⟩
          · rw [hv, hv']
            exact hsettle e hsame
          · rw [hv, hv']
            exact ⟨rfl, hu⟩
        · cases hresult
        · cases hresult
        · exact ⟨hresult, hsame⟩
      · cases e <;> first | exact absurd rfl he | exact hsettle _ h
    · rw [ht, ht']
      exact ⟨rfl, hu⟩

/-- The same directories can be made. -/
theorem makeAll (path : String) :
    (t.makeAll path).1 = (t'.makeAll path).1 ∧ (t.makeAll path).2.SameFiles (t'.makeAll path).2 :=
  h.makeFromLast _

end SameFiles

end FileTree

end ConfigCoverage
