import ConfigCoverage.Proofs.FileOrder

/-!
# A walk comes to its end

A walk is cut off where more directories stand one below the other than `FileTree.walkDepth` says. It never comes that
far. A link is followed only to a directory that is not on the way, so that fewer directories are left for the next one;
and a name leads to a directory with fewer directories in it.

* `FileNode.directoryPlaces`: the places of all directories.
* `FileTree.stepsLeft`: how many directories a walk can still go down from a place.
* `FileTree.stepsLeft_lt`: it goes down with each of them.
* `FileTree.walkFrom_eq_walk`: no item is lost.
-/

namespace ConfigCoverage

/-! ## The directories of a tree -/

namespace FileNode

mutual

/-- The places of all directories. -/
def directoryPlaces : FileNode → List Place
  | .directory entries => [] :: entriesPlaces entries
  | _ => []

/-- The places of all directories among entries. -/
def entriesPlaces : List (String × FileNode) → List Place
  | [] => []
  | (name, node) :: entries => (directoryPlaces node).map (name :: ·) ++ entriesPlaces entries

end

mutual

theorem length_directoryPlaces : ∀ n : FileNode, n.directoryPlaces.length = n.directoryCount
  | .file _ | .link _ => rfl
  | .directory entries => by
    rw [directoryPlaces, directoryCount, List.length_cons, length_entriesPlaces, Nat.add_comm]

theorem length_entriesPlaces : ∀ entries : List (String × FileNode),
    (entriesPlaces entries).length = entriesCount entries
  | [] => rfl
  | (name, node) :: entries => by
    rw [entriesPlaces, entriesCount, List.length_append, List.length_map, length_directoryPlaces,
      length_entriesPlaces]

end

theorem mem_entriesPlaces {entries : List (String × FileNode)} {name : String} {node : FileNode} {place : Place}
    (hm : (name, node) ∈ entries) (hp : place ∈ node.directoryPlaces) : name :: place ∈ entriesPlaces entries := by
  induction entries with
  | nil => cases hm
  | cons e entries ih =>
    rw [entriesPlaces, List.mem_append]
    rcases List.mem_cons.1 hm with rfl | hm
    · exact .inl (List.mem_map.2 ⟨place, hp, rfl⟩)
    · exact .inr (ih hm)

/-- The place of a directory is one of the places. -/
theorem mem_directoryPlaces {n : FileNode} {place : Place} {entries : List (String × FileNode)}
    (h : n.get? place = some (.directory entries)) : place ∈ n.directoryPlaces := by
  induction place generalizing n with
  | nil =>
    rw [get?] at h
    cases h
    exact List.mem_cons_self
  | cons name place ih =>
    cases n with
    | file | link => cases h
    | directory children =>
      rw [get?] at h
      obtain ⟨child, hl, hc⟩ := Option.bind_eq_some_iff.1 h
      exact List.mem_cons_of_mem _ (mem_entriesPlaces (mem_of_lookup hl) (ih hc))

/-- An entry has fewer directories than what lists it. -/
theorem directoryCount_lt_of_mem {entries : List (String × FileNode)} {name : String} {node : FileNode}
    (hm : (name, node) ∈ entries) : node.directoryCount < (FileNode.directory entries).directoryCount := by
  have hle : node.directoryCount ≤ entriesCount entries := by
    induction entries with
    | nil => cases hm
    | cons e entries ih =>
      rw [entriesCount]
      rcases List.mem_cons.1 hm with rfl | hm
      · exact Nat.le_add_right _ _
      · exact Nat.le_trans (ih hm) (Nat.le_add_left _ _)
  rw [directoryCount]
  omega

theorem directoryCount_le_of_get? {n m : FileNode} {place : Place} (h : n.get? place = some m) :
    m.directoryCount ≤ n.directoryCount := by
  induction place generalizing n with
  | nil =>
    rw [get?] at h
    cases h
    exact Nat.le_refl _
  | cons name place ih =>
    cases n with
    | file | link => cases h
    | directory entries =>
      rw [get?] at h
      obtain ⟨child, hl, hc⟩ := Option.bind_eq_some_iff.1 h
      exact Nat.le_trans (ih hc) (Nat.le_of_lt (directoryCount_lt_of_mem (mem_of_lookup hl)))

/-- What stands under a name is an entry of that name. -/
theorem mem_of_get?_append {n m : FileNode} {place : Place} {name : String} {entries : List (String × FileNode)}
    (hp : n.get? place = some (.directory entries)) (hm : n.get? (place ++ [name]) = some m) :
    (name, m) ∈ entries := by
  rw [get?_append, hp, Option.bind_some, get?] at hm
  obtain ⟨child, hl, hc⟩ := Option.bind_eq_some_iff.1 hm
  rw [get?] at hc
  cases hc
  exact mem_of_lookup hl

end FileNode

/-! ## Walks -/

namespace FileTree

/-- The directories that are not on the way. -/
def offTheWay (t : FileTree) (onTheWay : List Place) : List Place :=
  t.root.directoryPlaces.filter fun p => !onTheWay.contains p

theorem offTheWay_cons (t : FileTree) (place : Place) (onTheWay : List Place) :
    t.offTheWay (place :: onTheWay) = (t.offTheWay onTheWay).filter (· ≠ place) := by
  rw [offTheWay, offTheWay, List.filter_filter]
  refine List.filter_congr fun p _ => ?_
  by_cases h : p = place <;> simp [h]

/-- How many directories there are at a place. -/
def countAt (t : FileTree) (place : Place) : Nat := ((t.get? place).map FileNode.directoryCount).getD 0

theorem countAt_le (t : FileTree) (place : Place) : t.countAt place ≤ t.root.directoryCount := by
  unfold countAt
  cases h : t.get? place with
  | none => exact Nat.zero_le _
  | some n => exact FileNode.directoryCount_le_of_get? h

/-- How many directories a walk can still go down from a place. Each that is not on the way may be led to by a link, and
from there as many names lead down as there are directories. -/
def stepsLeft (t : FileTree) (above : List Place) (place : Place) : Nat :=
  (t.offTheWay (place :: above)).length * (t.root.directoryCount + 1) + t.countAt place

/-- A walk cannot go down for ever. -/
theorem stepsLeft_lt {t : FileTree} {options : WalkOptions} {above : List Place} {place found : Place} {name : String}
    {node : FileNode} {entries : List (String × FileNode)} (hp : t.get? place = some (.directory entries))
    (hf : t.walkEntry options (place :: above) place name node = .directory found) :
    t.stepsLeft (place :: above) found < t.stepsLeft above place := by
  unfold stepsLeft
  rw [offTheWay_cons t found]
  cases node with
  | file => cases hf
  | directory =>
    -- the name leads to what has fewer directories in it
    cases hf
    have hcount : t.countAt (place ++ [name]) < t.countAt place := by
      unfold countAt
      rw [hp]
      cases hc : t.get? (place ++ [name]) with
      | none =>
        change 0 < FileNode.directoryCount (.directory entries)
        rw [FileNode.directoryCount]
        omega
      | some child => exact FileNode.directoryCount_lt_of_mem (FileNode.mem_of_get?_append hp hc)
    have hlength := List.length_filter_le (· ≠ place ++ [name]) (t.offTheWay (place :: above))
    have hmul := Nat.mul_le_mul_right (t.root.directoryCount + 1) hlength
    omega
  | link target =>
    -- the link leads to a directory that was not on the way
    have hfound : (∃ es, t.get? found = some (.directory es)) ∧ found ∉ place :: above := by
      unfold walkEntry at hf
      grind
    obtain ⟨⟨es, hes⟩, hnot⟩ := hfound
    have hmem : found ∈ t.offTheWay (place :: above) := by
      simp only [offTheWay, List.mem_filter, List.contains_eq_mem, hnot, decide_false, Bool.not_false, and_true]
      exact FileNode.mem_directoryPlaces hes
    have hlength : ((t.offTheWay (place :: above)).filter (· ≠ found)).length < (t.offTheWay (place :: above)).length :=
      List.length_filter_lt_length_iff_exists.2 ⟨found, hmem, by simp⟩
    have hmul := Nat.mul_le_mul_right (t.root.directoryCount + 1) (Nat.succ_le_of_lt hlength)
    rw [Nat.succ_mul] at hmul
    have hcount := t.countAt_le found
    omega

/-- Beyond the directories that a walk can still go down, it is all the same how many are allowed. -/
theorem walkFrom_eq_of_le {t : FileTree} {options : WalkOptions} {start : Place} {fuel fuel' : Nat}
    {above : List Place} {levels : List IgnoreLevel} {path : List String} {place : Place}
    (h : t.stepsLeft above place < fuel) (hle : fuel ≤ fuel') :
    t.walkFrom options start fuel' above levels path place = t.walkFrom options start fuel above levels path place := by
  induction fuel generalizing fuel' above levels path place with
  | zero => omega
  | succ fuel ih =>
    obtain ⟨fuel', rfl⟩ : ∃ n, fuel' = n + 1 := ⟨fuel' - 1, by omega⟩
    rw [walkFrom, walkFrom]
    split
    · rfl
    · split
      case h_2 => rfl
      case h_1 entries hp =>
        rw [List.flatMap_def, List.flatMap_def]
        refine congrArg List.flatten (List.map_congr_left fun e _ => ?_)
        obtain ⟨name, node⟩ := e
        cases he : t.walkEntry options (place :: above) place name node with
        | failure | file => simp only [he]
        | directory found =>
          have hlt := stepsLeft_lt hp he
          have hih := fun levels path => @ih fuel' (place :: above) levels path found (by omega) (by omega)
          simp only [he, hih]

theorem stepsLeft_lt_walkDepth (t : FileTree) (place : Place) : t.stepsLeft [] place < t.walkDepth := by
  unfold stepsLeft walkDepth
  have hlength : (t.offTheWay [place]).length ≤ t.root.directoryCount := by
    rw [← FileNode.length_directoryPlaces]
    exact List.length_filter_le _ _
  have hmul := Nat.mul_le_mul_right (t.root.directoryCount + 1) hlength
  have hcount := t.countAt_le place
  rw [Nat.succ_mul]
  omega

/-- **A walk is never cut off.** However many directories more are allowed one below the other, it comes upon the same
items. -/
theorem walkFrom_eq_walk {t : FileTree} {fuel : Nat} (options : WalkOptions) (place : Place) (h : t.walkDepth ≤ fuel) :
    t.walkFrom options place fuel [] (if options.respectIgnored then t.levelsAbove place else []) [] place =
      t.walk options place :=
  walkFrom_eq_of_le (t.stepsLeft_lt_walkDepth place) h

end FileTree

end ConfigCoverage
