import ConfigCoverage.Proofs.FileOrder

/-!
# The paths of a walk

A walk never comes upon a path twice, even where links lead to one directory in several ways: the path of an item says
by which names the walk came there.

* `Path.splitSlashes_intercalate`: names without slashes are found again in the path they make.
* `FileTree.nodup_paths_walk`: the paths of a walk are all different.
-/

namespace ConfigCoverage

/-! ## Names and paths -/

namespace Path

theorem splitChars_of_not_mem {cs : List Char} (h : '/' ∉ cs) : splitChars cs = [cs] := by
  induction cs with
  | nil => rfl
  | cons c cs ih =>
    rw [List.mem_cons, not_or] at h
    rw [splitChars, if_neg (Ne.symm h.1), ih h.2]

theorem splitChars_ne_nil (cs : List Char) : splitChars cs ≠ [] := by
  fun_cases splitChars cs <;> simp

theorem splitChars_append (cs rest : List Char) :
    splitChars (cs ++ '/' :: rest) = splitChars cs ++ splitChars rest := by
  induction cs with
  | nil => simp [splitChars]
  | cons c cs ih =>
    rw [List.cons_append, splitChars, splitChars, ih]
    split
    · rfl
    · cases h : splitChars cs with
      | nil => exact absurd h (splitChars_ne_nil cs)
      | cons text texts => rfl

/-- Names without slashes are found again in the path they make. -/
theorem splitSlashes_intercalate {names : List String} (hne : names ≠ []) (h : ∀ name ∈ names, '/' ∉ name.toList) :
    splitSlashes (String.intercalate "/" names) = names := by
  induction names with
  | nil => exact absurd rfl hne
  | cons name names ih =>
    have hname := h name List.mem_cons_self
    cases names with
    | nil => simp [splitSlashes, splitChars_of_not_mem hname]
    | cons other names =>
      have hrest := ih (by simp) fun n hn => h n (List.mem_cons_of_mem name hn)
      have htext : (String.intercalate "/" (name :: other :: names)).toList =
          name.toList ++ '/' :: (String.intercalate "/" (other :: names)).toList := by
        simp only [String.intercalate_cons_cons, String.toList_append, List.append_assoc]
        rfl
      rw [splitSlashes] at hrest ⊢
      rw [htext, splitChars_append, splitChars_of_not_mem hname, List.singleton_append, List.map_cons, hrest,
        String.ofList_toList]

end Path

/-! ## Walks -/

/-- The path of an item; a failure has none. -/
def WalkItem.path? : WalkItem → Option String
  | .directory path | .file path _ => some path
  | .failure => none

namespace FileTree

/-- Does no name hold a slash? -/
def SlashFree (names : List String) : Prop :=
  ∀ name ∈ names, '/' ∉ name.toList

/-- The text is a path that goes from `path` through `name`. -/
def Through (path : List String) (name text : String) : Prop :=
  ∃ more, SlashFree (path ++ name :: more) ∧ text = String.intercalate "/" (path ++ name :: more)

theorem Through.splitSlashes {path : List String} {name text : String} (h : Through path name text) :
    ∃ more, Path.splitSlashes text = path ++ name :: more := by
  obtain ⟨more, hs, rfl⟩ := h
  exact ⟨more, Path.splitSlashes_intercalate (by simp) hs⟩

/-- Paths through different names of a directory differ. -/
theorem Through.ne {path : List String} {a b s t : String} (hs : Through path a s) (ht : Through path b t)
    (hab : a ≠ b) : s ≠ t := by
  rintro rfl
  obtain ⟨more, h⟩ := hs.splitSlashes
  obtain ⟨more', h'⟩ := ht.splitSlashes
  rw [h, List.append_cancel_left_eq] at h'
  exact hab (List.cons.inj h').1

/-- The path of an entry is none of those that go further. -/
theorem Through.ne_entry {path : List String} {name a t : String} (hs : SlashFree (path ++ [name]))
    (ht : Through (path ++ [name]) a t) : String.intercalate "/" (path ++ [name]) ≠ t := by
  rintro rfl
  obtain ⟨more, h⟩ := ht.splitSlashes
  rw [Path.splitSlashes_intercalate (by simp) hs] at h
  simpa using congrArg List.length h

theorem through_entry {path : List String} {name : String} (hs : SlashFree (path ++ [name])) :
    Through path name (String.intercalate "/" (path ++ [name])) :=
  ⟨[], hs, rfl⟩

theorem Through.of_entry {path : List String} {name a t : String} (h : Through (path ++ [name]) a t) :
    Through path name t := by
  obtain ⟨more, hs, rfl⟩ := h
  rw [List.append_assoc, List.singleton_append] at hs ⊢
  exact ⟨a :: more, hs, rfl⟩

/-- The paths of the items are all different and fulfil `P`. -/
structure DistinctPaths (P : String → Prop) (items : List WalkItem) : Prop where
  nodup : (items.filterMap WalkItem.path?).Nodup
  mem : ∀ text ∈ items.filterMap WalkItem.path?, P text

theorem distinctPaths_nil {P : String → Prop} : DistinctPaths P [] := ⟨.nil, by simp⟩

section Entries

variable {path : List String} {name : String} {items : List WalkItem}

theorem distinctPaths_failure {P : String → Prop} : DistinctPaths P [.failure] := ⟨.nil, by simp [WalkItem.path?]⟩

theorem distinctPaths_file (hs : SlashFree (path ++ [name])) (isLink : Bool) :
    DistinctPaths (Through path name) [.file (String.intercalate "/" (path ++ [name])) isLink] :=
  ⟨by simp [WalkItem.path?], by simpa [WalkItem.path?] using through_entry hs⟩

/-- A directory comes before what is below it. -/
theorem distinctPaths_directory (hs : SlashFree (path ++ [name]))
    (h : DistinctPaths (fun text => ∃ a, Through (path ++ [name]) a text) items) :
    DistinctPaths (Through path name) (.directory (String.intercalate "/" (path ++ [name])) :: items) := by
  refine ⟨List.nodup_cons.2 ⟨fun hm => ?_, h.nodup⟩, List.forall_mem_cons.2 ⟨through_entry hs, fun text hm => ?_⟩⟩
  · obtain ⟨a, ha⟩ := h.mem _ hm
    exact ha.ne_entry hs rfl
  · obtain ⟨a, ha⟩ := h.mem text hm
    exact ha.of_entry

/-- The entries of a directory have different names, so the paths through them differ. -/
theorem distinctPaths_flatMap {entries : List (String × FileNode)} {f : String × FileNode → List WalkItem}
    (names : (entries.map Prod.fst).Nodup) (h : ∀ e ∈ entries, DistinctPaths (Through path e.1) (f e)) :
    DistinctPaths (fun text => ∃ a, Through path a text) (entries.flatMap f) := by
  refine ⟨?_, fun text hm => ?_⟩
  · rw [List.filterMap_flatMap]
    refine List.pairwise_flatMap.2 ⟨fun e he => (h e he).nodup, ?_⟩
    refine (List.pairwise_map.1 names).imp_of_mem fun {d e} hd he hne s hs t ht => ?_
    exact ((h d hd).mem s hs).ne ((h e he).mem t ht) hne
  · rw [List.filterMap_flatMap, List.mem_flatMap] at hm
    obtain ⟨e, he, hm⟩ := hm
    exact ⟨e.1, (h e he).mem text hm⟩

end Entries

theorem distinctPaths_walkFrom {t : FileTree} (h : t.root.WellNamed) (options : WalkOptions) (start : Place)
    (fuel : Nat) (above : List Place) (levels : List IgnoreLevel) (path : List String)
    (place : Place) (hs : SlashFree path) :
    DistinctPaths (fun text => ∃ a, Through path a text)
      (t.walkFrom options start fuel above levels path place) := by
  induction fuel generalizing above levels path place with
  | zero => exact distinctPaths_nil
  | succ fuel ih =>
    rw [walkFrom]
    split
    · exact distinctPaths_nil
    · split
      case h_2 => exact distinctPaths_nil
      case h_1 entries hp =>
        cases h.get? hp with
        | directory names slashes _ =>
          simp only
          generalize (if options.respectIgnored = true then
            IgnoreLevel.ofDirectory t place (start.length + path.length) :: levels else levels) = inner
          refine distinctPaths_flatMap names fun e he => ?_
          have hs' : SlashFree (path ++ [e.1]) := by
            intro n hn
            rcases List.mem_append.1 hn with hn | hn
            · exact hs n hn
            · rw [List.mem_singleton.1 hn]
              exact slashes e he
          cases t.walkEntry options (place :: above) place e.1 e.2 with
          | failure => exact distinctPaths_failure
          | file isLink =>
            simp only
            split
            · exact distinctPaths_nil
            · exact distinctPaths_file hs' isLink
          | directory found =>
            simp only
            split
            · exact distinctPaths_nil
            · exact distinctPaths_directory hs' (ih _ _ _ found hs')

/-- A walk through a well named tree comes upon no path twice. -/
theorem nodup_paths_walk {t : FileTree} (h : t.root.WellNamed) (options : WalkOptions) (place : Place) :
    ((t.walk options place).filterMap WalkItem.path?).Nodup :=
  (distinctPaths_walkFrom h options place _ _ _ [] place (by simp [SlashFree])).nodup

end FileTree

end ConfigCoverage
