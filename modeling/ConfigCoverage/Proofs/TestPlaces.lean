import ConfigCoverage.Command.Coverage
import ConfigCoverage.Proofs.WalkPaths

/-!
# Where the tests of modules are

The test of a module is looked for by its identifier, from inside the test root. A dot of the identifier becomes a slash,
so the path never leads upwards and stays below the root. Only an identifier that begins with a dot or a slash makes a
path of its own, which the root has no part in.

* `Path.components_join`: a path that leads down, taken from inside another, adds names to it.
* `FileTree.resolve_join`: it leads to a place below that of the other, if no link is on the way.
* `locateTestFile?_below_root`: the test of a module is below the root.
-/

namespace ConfigCoverage

/-! ## Paths that lead down -/

namespace Path

variable {base rest : String}

theorem splitSlashes_append (a b : String) : splitSlashes (a ++ "/" ++ b) = splitSlashes a ++ splitSlashes b := by
  have htext : (a ++ "/" ++ b).toList = a.toList ++ '/' :: b.toList := by simp
  rw [splitSlashes, htext, splitChars_append, List.map_append]
  rfl

theorem splitSlashes_ne_nil (path : String) : splitSlashes path ≠ [] := by
  rw [splitSlashes, Ne, List.map_eq_nil_iff]
  exact splitChars_ne_nil _

/-- An ending without slashes goes to the last text of a path. -/
theorem splitChars_append_ending {ending : List Char} (h : '/' ∉ ending) (cs : List Char) :
    ∃ texts last, splitChars cs = texts ++ [last] ∧ splitChars (cs ++ ending) = texts ++ [last ++ ending] := by
  induction cs with
  | nil => exact ⟨[], [], rfl, splitChars_of_not_mem h⟩
  | cons c cs ih =>
    obtain ⟨texts, last, hcs, hending⟩ := ih
    rw [List.cons_append, splitChars, splitChars, hcs, hending]
    split
    · exact ⟨[] :: texts, last, rfl, rfl⟩
    · cases texts with
      | nil => exact ⟨[], c :: last, rfl, rfl⟩
      | cons text texts => exact ⟨(c :: text) :: texts, last, rfl, rfl⟩

theorem mem_of_mem_splitChars {cs text : List Char} {c : Char} (ht : text ∈ splitChars cs) (hc : c ∈ text) :
    c ∈ cs := by
  induction cs generalizing text with
  | nil =>
    rw [splitChars, List.mem_singleton] at ht
    rwa [ht] at hc
  | cons d cs ih =>
    rw [splitChars] at ht
    split at ht
    · rcases List.mem_cons.1 ht with rfl | ht
      · cases hc
      · exact List.mem_cons_of_mem d (ih ht hc)
    · cases h : splitChars cs with
      | nil => exact absurd h (splitChars_ne_nil cs)
      | cons first texts =>
        rw [h] at ht ih
        rcases List.mem_cons.1 ht with rfl | ht
        · rcases List.mem_cons.1 hc with rfl | hc
          · exact List.mem_cons_self
          · exact List.mem_cons_of_mem d (ih List.mem_cons_self hc)
        · exact List.mem_cons_of_mem d (ih (List.mem_cons_of_mem _ ht) hc)

/-- The texts of a path that are not empty. -/
def names (path : String) : List String := (splitSlashes path).filter (· ≠ "")

/-- The path leads down: it does not start at the root, no text of it is a dot or two dots, and it ends with a name. -/
structure Descends (path : String) : Prop where
  relative : isAbsolute path = false
  plain : ∀ text ∈ splitSlashes path, text ≠ "." ∧ text ≠ ".."
  named : path.toList.getLast? ≠ some '/' ∧ names path ≠ []

theorem laterComponents_append (xs ys : List String) :
    laterComponents (xs ++ ys) = laterComponents xs ++ laterComponents ys := List.filterMap_append

theorem laterComponents_of_plain {texts : List String} (h : ∀ text ∈ texts, text ≠ "." ∧ text ≠ "..") :
    laterComponents texts = (texts.filter (· ≠ "")).map .normal := by
  induction texts with
  | nil => rfl
  | cons text texts ih =>
    obtain ⟨⟨hdot, hdots⟩, h⟩ := List.forall_mem_cons.1 h
    have hrest : laterComponents texts = (texts.filter (· ≠ "")).map .normal := ih h
    unfold laterComponents at hrest ⊢
    by_cases hempty : text = ""
    · simp [hempty, hrest]
    · simp [hempty, hdot, hdots, hrest]

/-- What stands before the names of a path: the root, or a dot. -/
def opening (path : String) : List Component :=
  if isAbsolute path then [.root] else if (splitSlashes path).head? = some "." then [.current] else []

theorem components_eq (path : String) : components path = opening path ++ laterComponents (splitSlashes path) := by
  simp only [components, opening]
  split
  · rfl
  · split <;> rfl

theorem splitSlashes_slash (path : String) : splitSlashes (path ++ "/") = splitSlashes path ++ [""] := by
  have h := splitSlashes_append path ""
  rwa [String.append_empty] at h

theorem head?_splitSlashes_append (path : String) (texts : List String) :
    (splitSlashes path ++ texts).head? = (splitSlashes path).head? := by
  obtain ⟨text, more, h⟩ := List.exists_cons_of_ne_nil (splitSlashes_ne_nil path)
  rw [h]
  rfl

theorem laterComponents_slash (path : String) :
    laterComponents (splitSlashes (path ++ "/")) = laterComponents (splitSlashes path) := by
  rw [splitSlashes_slash, laterComponents_append]
  exact List.append_nil _

/-- What follows a slash adds its own components. -/
theorem components_append (base rest : String) :
    components (base ++ "/" ++ rest) = components (base ++ "/") ++ laterComponents (splitSlashes rest) := by
  have habsolute : isAbsolute (base ++ "/" ++ rest) = isAbsolute (base ++ "/") := by
    unfold isAbsolute
    cases h : base.toList <;> simp [h]
  have hopening : opening (base ++ "/" ++ rest) = opening (base ++ "/") := by
    rw [opening, opening, habsolute, splitSlashes_append, splitSlashes_slash, head?_splitSlashes_append,
      head?_splitSlashes_append]
  rw [components_eq, components_eq, hopening, splitSlashes_append, laterComponents_append, laterComponents_slash,
    List.append_assoc]

theorem components_slash (h : base ≠ "") : components (base ++ "/") = components base := by
  have habsolute : isAbsolute (base ++ "/") = isAbsolute base := by
    unfold isAbsolute
    cases hb : base.toList with
    | nil => exact absurd (String.toList_eq_nil_iff.1 hb) h
    | cons c cs => simp [hb]
  have hopening : opening (base ++ "/") = opening base := by
    rw [opening, opening, habsolute, splitSlashes_slash, head?_splitSlashes_append]
  rw [components_eq, components_eq, hopening, laterComponents_slash]

/-- The path with a slash at its end, unless it is empty. -/
def asDirectory (path : String) : String :=
  if path = "" ∨ path.toList.getLast? = some '/' then path else path ++ "/"

theorem join_of_relative (h : isAbsolute rest = false) : join base rest = asDirectory base ++ rest := by
  unfold join asDirectory
  rw [h]
  split <;> split <;> simp_all

/-- A path with a slash at its end is another before a slash. -/
theorem exists_stem (h : base ≠ "") :
    ∃ stem, asDirectory base = stem ++ "/" ∧ (base = stem ++ "/" ∨ base = stem) := by
  unfold asDirectory
  by_cases hlast : base.toList.getLast? = some '/'
  · obtain ⟨stem, hstem⟩ := List.getLast?_eq_some_iff.1 hlast
    have hbase : base = String.ofList stem ++ "/" := by
      rw [← String.toList_inj, hstem]
      simp
    exact ⟨String.ofList stem, by rw [if_pos (.inr hlast)]; exact hbase, .inl hbase⟩
  · exact ⟨base, if_neg (not_or.2 ⟨h, hlast⟩), .inr rfl⟩

theorem isAbsolute_join (hbase : base ≠ "") (h : isAbsolute rest = false) :
    isAbsolute (join base rest) = isAbsolute base := by
  have hstart : ∃ more, asDirectory base = base ++ more := by
    unfold asDirectory
    split
    · exact ⟨"", by simp⟩
    · exact ⟨"/", rfl⟩
  obtain ⟨more, hmore⟩ := hstart
  obtain ⟨c, cs, hc⟩ := List.exists_cons_of_ne_nil (mt String.toList_eq_nil_iff.1 hbase)
  rw [join_of_relative h, hmore, isAbsolute, isAbsolute, String.toList_append, String.toList_append, hc]
  rfl

/-- A path that leads down, taken from inside another, adds its names to it. -/
theorem components_join (h : Descends rest) :
    components (join base rest) = components base ++ (names rest).map .normal := by
  have hrest : laterComponents (splitSlashes rest) = (names rest).map .normal := laterComponents_of_plain h.plain
  rw [join_of_relative h.relative]
  by_cases hbase : base = ""
  · subst hbase
    have hhead : (splitSlashes rest).head? ≠ some "." := fun hdot => (h.plain "." (List.mem_of_head? hdot)).1 rfl
    have hopening : opening rest = [] := by rw [opening, h.relative, if_neg (by simp), if_neg hhead]
    have hempty : components "" = [] := by decide
    have hdirectory : asDirectory "" ++ rest = rest := by simp [asDirectory]
    rw [hdirectory, components_eq, hopening, hrest, hempty]
  · obtain ⟨stem, hstem, rfl | rfl⟩ := exists_stem hbase
    · rw [hstem, components_append, hrest]
    · rw [hstem, components_append, components_slash hbase, hrest]

end Path

/-! ## Following paths -/

/-- The steps of the texts of a path. -/
def textSteps (path : String) : List Step :=
  (Path.names path).map fun t => if t = "." then .here else if t = ".." then .up else .name t

theorem stepsOf_eq (path : String) :
    stepsOf path = textSteps path ++ if path.toList.getLast? = some '/' then [.here] else [] := rfl

theorem textSteps_of_descends {path : String} (h : Path.Descends path) :
    textSteps path = (Path.names path).map .name := by
  refine List.map_congr_left fun text ht => ?_
  obtain ⟨hdot, hdots⟩ := h.plain text (List.mem_filter.1 ht).1
  rw [if_neg hdot, if_neg hdots]

theorem textSteps_append (a b : String) : textSteps (a ++ "/" ++ b) = textSteps a ++ textSteps b := by
  unfold textSteps Path.names
  rw [Path.splitSlashes_append, List.filter_append, List.map_append]

theorem textSteps_slash (path : String) : textSteps (path ++ "/") = textSteps path := by
  unfold textSteps Path.names
  rw [Path.splitSlashes_slash, List.filter_append, List.map_append]
  exact List.append_nil _

theorem stepsOf_join {base rest : String} (hbase : base ≠ "") (h : Path.Descends rest) :
    stepsOf (Path.join base rest) = textSteps base ++ (Path.names rest).map .name := by
  have hlast : (Path.asDirectory base ++ rest).toList.getLast? ≠ some '/' := by
    intro hslash
    rw [String.toList_append, List.getLast?_append] at hslash
    cases hr : rest.toList.getLast? with
    | none =>
      rw [List.getLast?_eq_none_iff, String.toList_eq_nil_iff] at hr
      exact h.named.2 (by rw [hr]; decide)
    | some c =>
      rw [hr] at hslash
      exact h.named.1 (hr.trans hslash)
  rw [Path.join_of_relative h.relative, stepsOf_eq, if_neg hlast, List.append_nil]
  obtain ⟨stem, hstem, rfl | rfl⟩ := Path.exists_stem hbase
  · rw [hstem, textSteps_append, textSteps_slash, textSteps_of_descends h]
  · rw [hstem, textSteps_append, textSteps_of_descends h]

namespace FileTree

variable {t : FileTree} {place : Place}

/-- Steps that are followed by others lead to a place, or to a link, or they fail. -/
theorem advance_append (t : FileTree) (place : Place) (steps : List Step) {more : List Step} (hmore : more ≠ []) :
    (∃ directory, ∀ more, t.advance true place (steps ++ more) = t.advance true directory more) ∨
    (∃ directory target rest, ∀ more, t.advance true place (steps ++ more) = .link directory target (rest ++ more)) ∨
    ∃ e, t.advance true place (steps ++ more) = .failed e := by
  induction steps generalizing place with
  | nil => exact .inl ⟨place, fun _ => rfl⟩
  | cons step steps ih =>
    cases hplace : t.get? place with
    | none => exact .inr (.inr ⟨.notDirectory, by simp [advance, hplace]⟩)
    | some node =>
      cases node with
      | file | link => exact .inr (.inr ⟨.notDirectory, by simp [advance, hplace]⟩)
      | directory entries =>
        cases step with
        | here => simpa [advance, hplace] using ih place
        | up => simpa [advance, hplace] using ih place.dropLast
        | name n =>
          by_cases hlong : maxNameLength < n.utf8ByteSize
          · exact .inr (.inr ⟨.nameTooLong, by simp [advance, hplace, hlong]⟩)
          · cases hn : entries.lookup n with
            | none => exact .inr (.inr ⟨.notFound, by simp [advance, hplace, hlong, hn, hmore]⟩)
            | some child =>
              cases child with
              | link target => exact .inr (.inl ⟨place, target, steps, by simp [advance, hplace, hlong, hn]⟩)
              | file | directory => simpa [advance, hplace, hlong, hn] using ih (place ++ [n])

/-- The steps lead from `place` to `directory`, with `left` links to spare: whatever comes after them is followed from
there. -/
def Leads (t : FileTree) (links : Nat) (place : Place) (steps : List Step) (directory : Place) (left : Nat) : Prop :=
  ∀ more, t.locateFrom true links place (steps ++ more) = t.locateFrom true left directory more

/-- If a path is found, the beginning of it leads to some place. The induction is on the links that may be followed: one
on the way is replaced by the steps to its target. -/
theorem exists_leads {links : Nat} {steps more : List Step} {target : Target} (hmore : more ≠ [])
    (h : t.locateFrom true links place (steps ++ more) = .ok target) :
    ∃ directory left, t.Leads links place steps directory left := by
  induction links generalizing place steps with
  | zero =>
    rcases t.advance_append place steps hmore with ⟨directory, hd⟩ | ⟨directory, link, rest, hlink⟩ | ⟨e, he⟩
    · exact ⟨directory, 0, fun more => by rw [locateFrom, locateFrom, hd more]⟩
    · simp [locateFrom, hlink] at h
    · simp [locateFrom, he] at h
  | succ links ih =>
    rcases t.advance_append place steps hmore with ⟨directory, hd⟩ | ⟨directory, link, rest, hlink⟩ | ⟨e, he⟩
    · exact ⟨directory, links + 1, fun more => by rw [locateFrom, locateFrom, hd more]⟩
    · have hstep : ∀ more, t.locateFrom true (links + 1) place (steps ++ more) =
          t.locateFrom true links (if Path.isAbsolute link then [] else directory) ((stepsOf link ++ rest) ++ more) := by
        intro more
        rw [locateFrom, hlink more, List.append_assoc]
      rw [hstep more] at h
      obtain ⟨found, left, hleads⟩ := ih h
      exact ⟨found, left, fun more => (hstep more).trans (hleads more)⟩
    · simp [locateFrom, he] at h

/-- There is no link at the place or below it. -/
def LinkFree (t : FileTree) (place : Place) : Prop := ∀ names target, t.get? (place ++ names) ≠ some (.link target)

/-- Where there are no links, names lead straight down. -/
theorem advance_names (h : t.LinkFree place) (names : List String) :
    t.advance true place (names.map .name) = .target (.present (place ++ names)) ∨
    (∃ directory name, t.advance true place (names.map .name) = .target (.missing directory name)) ∨
    ∃ e, t.advance true place (names.map .name) = .failed e := by
  induction names generalizing place with
  | nil => exact .inl (by simp [advance])
  | cons n names ih =>
    cases hplace : t.get? place with
    | none => exact .inr (.inr ⟨.notDirectory, by simp [advance, hplace]⟩)
    | some node =>
      cases node with
      | file | link => exact .inr (.inr ⟨.notDirectory, by simp [advance, hplace]⟩)
      | directory entries =>
        by_cases hlong : maxNameLength < n.utf8ByteSize
        · exact .inr (.inr ⟨.nameTooLong, by simp [advance, hplace, hlong]⟩)
        · have hchild : t.get? (place ++ [n]) = entries.lookup n := by
            rw [get?_append, hplace, Option.bind_some, FileNode.get?]
            cases entries.lookup n <;> rfl
          have hbelow : t.LinkFree (place ++ [n]) := fun names target => by
            rw [List.append_assoc]
            exact h (n :: names) target
          have hstep := ih hbelow
          rw [List.append_assoc, List.singleton_append] at hstep
          cases hn : entries.lookup n with
          | none =>
            cases names with
            | nil => exact .inr (.inl ⟨place, n, by simp [advance, hplace, hlong, hn]⟩)
            | cons => exact .inr (.inr ⟨.notFound, by simp [advance, hplace, hlong, hn]⟩)
          | some child =>
            cases child with
            | link target => exact absurd (hchild.trans hn) (h [n] target)
            | file | directory => simpa [advance, hplace, hlong, hn] using hstep

/-- Only a directory can be stepped from. -/
theorem exists_entries_of_locateFrom {links : Nat} {steps : List Step} {target : Target} (hsteps : steps ≠ [])
    (h : t.locateFrom true links place steps = .ok target) : ∃ entries, t.get? place = some (.directory entries) := by
  obtain ⟨step, rest, rfl⟩ := List.exists_cons_of_ne_nil hsteps
  rw [locateFrom] at h
  cases hplace : t.get? place with
  | none => simp [advance, hplace] at h
  | some node =>
    cases node with
    | file | link => simp [advance, hplace] at h
    | directory entries => exact ⟨entries, rfl⟩

theorem resolve_eq_ok_iff {path : String} :
    t.resolve path = .ok place ↔
      path ≠ "" ∧ t.locateFrom true maxLinks (if Path.isAbsolute path then [] else t.current) (stepsOf path) =
        .ok (.present place) := by
  unfold resolve resolveIn locateIn
  by_cases hpath : path = ""
  · simp [hpath]
  · rw [if_neg hpath]
    cases t.locateFrom true maxLinks (if Path.isAbsolute path then [] else t.current) (stepsOf path) with
    | error e => simp
    | ok target => cases target <;> simp [hpath]

/-- A path that leads down, taken from inside another, leads to a place below that of the other, if there are no
links. -/
theorem resolve_join {base rest : String} (hbase : base ≠ "") (h : Path.Descends rest)
    (hplace : t.resolve (Path.join base rest) = .ok place) :
    ∃ directory, t.resolve base = .ok directory ∧ (t.LinkFree directory → place = directory ++ Path.names rest) := by
  obtain ⟨-, hplace⟩ := resolve_eq_ok_iff.1 hplace
  rw [Path.isAbsolute_join hbase h.relative, stepsOf_join hbase h] at hplace
  have hne : (Path.names rest).map Step.name ≠ [] := by simpa using h.named.2
  obtain ⟨directory, left, hleads⟩ := exists_leads hne hplace
  have hnames : t.locateFrom true left directory ((Path.names rest).map .name) = .ok (.present place) :=
    (hleads _).symm.trans hplace
  refine ⟨directory, resolve_eq_ok_iff.2 ⟨hbase, ?_⟩, fun hfree => ?_⟩
  · rw [stepsOf_eq, hleads]
    split
    · obtain ⟨entries, hentries⟩ := exists_entries_of_locateFrom hne hnames
      simp [locateFrom, advance, hentries]
    · simp [locateFrom, advance]
  · rw [locateFrom] at hnames
    rcases advance_names hfree (Path.names rest) with hd | ⟨_, _, hd⟩ | ⟨_, hd⟩
    · rw [hd] at hnames
      cases hnames
      rfl
    · rw [hd] at hnames
      cases hnames
    · rw [hd] at hnames
      cases hnames

end FileTree

/-! ## Tests of modules -/

namespace ModuleInfo

variable {m : ModuleInfo} {language : Language}

/-- Does the identifier begin with neither a dot nor a slash? -/
def beginsWithName (m : ModuleInfo) : Bool := m.identifier.toList.head?.all fun c => !(['.', '/'].contains c)

/-- The path from the test root to the test of a module. -/
def testFile (m : ModuleInfo) (language : Language) : String := m.path ++ "Test." ++ language.extension

/-- The names on the way from the test root to the test of a module. -/
def testNames (m : ModuleInfo) (language : Language) : List String := Path.names (m.testFile language)

theorem toList_path (m : ModuleInfo) :
    m.path.toList = m.identifier.toList.map fun c => if c = '.' then '/' else c := by
  rw [path, String.toList_map]

theorem dot_not_mem_path (m : ModuleInfo) : '.' ∉ m.path.toList := by
  rw [toList_path, List.mem_map]
  rintro ⟨c, -, hc⟩
  split at hc
  · cases hc
  · next hne => exact hne hc

theorem toList_testFile (m : ModuleInfo) (language : Language) :
    (m.testFile language).toList = m.path.toList ++ ("Test." ++ language.extension).toList := by
  rw [testFile, String.append_assoc, String.toList_append]

/-- Only an identifier that begins with a dot or a slash gives a path from the root of all files. -/
theorem isAbsolute_testFile (m : ModuleInfo) (language : Language) :
    Path.isAbsolute (m.testFile language) = !m.beginsWithName := by
  unfold Path.isAbsolute beginsWithName
  rw [toList_testFile, toList_path]
  cases m.identifier.toList with
  | nil => cases language <;> rfl
  | cons c cs =>
    by_cases hdot : c = '.'
    · simp [hdot]
    · by_cases hslash : c = '/' <;> simp [hdot, hslash]

/-- The ending of a test goes to the last text of the path. -/
theorem splitSlashes_testFile (m : ModuleInfo) (language : Language) :
    ∃ texts last, (∀ text ∈ texts, '.' ∉ text.toList) ∧
      Path.splitSlashes (m.testFile language) = texts ++ [last ++ "Test." ++ language.extension] := by
  have hslash : '/' ∉ ("Test." ++ language.extension).toList := by cases language <;> decide
  obtain ⟨texts, last, hpath, hfile⟩ := Path.splitChars_append_ending hslash m.path.toList
  refine ⟨texts.map String.ofList, String.ofList last, fun text ht hdot => ?_, ?_⟩
  · obtain ⟨chars, hchars, rfl⟩ := List.mem_map.1 ht
    rw [String.toList_ofList] at hdot
    have hmem : chars ∈ Path.splitChars m.path.toList := by rw [hpath]; exact List.mem_append_left _ hchars
    exact m.dot_not_mem_path (Path.mem_of_mem_splitChars hmem hdot)
  · rw [Path.splitSlashes, toList_testFile, hfile, List.map_append, List.map_singleton, String.ofList_append,
      String.ofList_toList, String.append_assoc]

/-- No text of the path is a dot or two dots: one of the identifier has no dot, and the last one is longer. -/
theorem plain_testFile (m : ModuleInfo) (language : Language) :
    (∀ text ∈ Path.splitSlashes (m.testFile language), text ≠ "." ∧ text ≠ "..") ∧ m.testNames language ≠ [] := by
  obtain ⟨texts, last, htexts, hsplit⟩ := m.splitSlashes_testFile language
  have hlong : 2 < (last ++ "Test." ++ language.extension).length := by
    have hending : "Test.".length = 5 := by decide
    rw [String.length_append, String.length_append, hending]
    omega
  have hne : ∀ text : String, text.length ≤ 2 → last ++ "Test." ++ language.extension ≠ text := by
    rintro text hshort rfl
    omega
  refine ⟨fun text ht => ?_, ?_⟩
  · rw [hsplit] at ht
    rcases List.mem_append.1 ht with ht | ht
    · constructor <;> rintro rfl <;> exact htexts _ ht (by decide)
    · rw [List.mem_singleton.1 ht]
      exact ⟨hne "." (by decide), hne ".." (by decide)⟩
  · have hmem : last ++ "Test." ++ language.extension ∈ m.testNames language := by
      rw [testNames, Path.names, hsplit]
      exact List.mem_filter.2 ⟨List.mem_append_right _ List.mem_cons_self, decide_eq_true (hne "" (by decide))⟩
    exact List.ne_nil_of_mem hmem

theorem descends_testFile (h : m.beginsWithName = true) : Path.Descends (m.testFile language) := by
  obtain ⟨hplain, hnames⟩ := m.plain_testFile language
  refine ⟨?_, hplain, ?_, hnames⟩
  · rw [isAbsolute_testFile, h]
    rfl
  · obtain ⟨c, hc, hne⟩ : ∃ c, ("Test." ++ language.extension).toList.getLast? = some c ∧ c ≠ '/' := by
      cases language
      · exact ⟨'a', by decide, by decide⟩
      · exact ⟨'y', by decide, by decide⟩
    rw [toList_testFile, List.getLast?_append, hc]
    exact fun heq => hne (Option.some.inj heq)

end ModuleInfo

/-- The path is that of a test of `m` in `language`, and it is inside the root. -/
structure IsTestBelow (t : FileTree) (root : String) (m : ModuleInfo) (language : Language) (path : String) :
    Prop where
  /-- The root, a slash if it has none at its end, the identifier with a slash for each dot, and the ending. -/
  text : path = Path.asDirectory root ++ m.path ++ "Test." ++ language.extension
  /-- Below the root there are names only. -/
  components : Path.components path = Path.components root ++ (m.testNames language).map .normal
  named : m.testNames language ≠ []
  /-- The root leads to a directory, and the file is below it if there are no links there. -/
  place : root ≠ "" → ∃ directory, t.resolve root = .ok directory ∧
    (t.LinkFree directory → t.resolve path = .ok (directory ++ m.testNames language))

theorem testPath_eq (root : String) (m : ModuleInfo) (language : Language) :
    testPath root m language = Path.join root (m.testFile language) := rfl

theorem testPath_of_name {m : ModuleInfo} (hm : m.beginsWithName = true) (root : String) (language : Language) :
    testPath root m language = Path.asDirectory root ++ m.path ++ "Test." ++ language.extension := by
  rw [testPath_eq, Path.join_of_relative (ModuleInfo.descends_testFile hm).relative, ModuleInfo.testFile,
    String.append_assoc, String.append_assoc, String.append_assoc]

theorem exists_resolve_of_isFile {t : FileTree} {path : String} (h : t.isFile path = true) :
    ∃ place, t.resolve path = .ok place := by
  unfold FileTree.isFile FileTree.nodeIn? at h
  cases hr : t.resolve path with
  | ok place => exact ⟨place, rfl⟩
  | error e =>
    rw [FileTree.resolve] at hr
    simp [hr, Except.toOption] at h

theorem isTestBelow_testPath {t : FileTree} {root : String} {m : ModuleInfo} {language : Language}
    (hm : m.beginsWithName = true) (h : t.isFile (testPath root m language) = true) :
    IsTestBelow t root m language (testPath root m language) := by
  have hdown : Path.Descends (m.testFile language) := ModuleInfo.descends_testFile hm
  refine ⟨testPath_of_name hm root language, Path.components_join hdown, hdown.named.2, fun hroot => ?_⟩
  obtain ⟨place, hplace⟩ := exists_resolve_of_isFile h
  obtain ⟨directory, hdirectory, hbelow⟩ := FileTree.resolve_join hroot hdown hplace
  refine ⟨directory, hdirectory, fun hfree => ?_⟩
  rw [hplace, hbelow hfree]
  rfl

/-- If the identifier begins with a dot or a slash, the root has no part in the path. -/
theorem testPath_of_absolute {m : ModuleInfo} (hm : m.beginsWithName = false) (root : String) (language : Language) :
    testPath root m language = m.testFile language := by
  have habsolute : Path.isAbsolute (m.testFile language) = true := by
    rw [ModuleInfo.isAbsolute_testFile, hm]
    rfl
  rw [testPath_eq, Path.join, if_pos habsolute]

theorem components_testFile_of_absolute {m : ModuleInfo} (hm : m.beginsWithName = false) (language : Language) :
    Path.components (m.testFile language) = .root :: (m.testNames language).map .normal := by
  have hopening : Path.opening (m.testFile language) = [.root] := by
    rw [Path.opening, ModuleInfo.isAbsolute_testFile, hm]
    rfl
  rw [Path.components_eq, hopening, Path.laterComponents_of_plain (m.plain_testFile language).1]
  rfl

/-- The test in the first language is taken, and the other only where the first is missing. -/
theorem locateTestFile?_eq_some_iff {t : FileTree} {root : String} {m : ModuleInfo} {path : String} :
    locateTestFile? t root m = some path ↔
      ∃ language, path = testPath root m language ∧ t.isFile path = true ∧
        (language = .python → t.isFile (testPath root m .java) = false) := by
  unfold locateTestFile?
  rw [List.map_cons, List.map_singleton, List.find?_cons, List.find?_singleton]
  cases hjava : t.isFile (testPath root m .java) with
  | true =>
    constructor
    · intro h
      cases h
      exact ⟨.java, rfl, hjava, fun hpython => by cases hpython⟩
    · rintro ⟨language, rfl, -, hfirst⟩
      cases language with
      | java => rfl
      | python => cases hfirst rfl
  | false =>
    constructor
    · intro h
      obtain ⟨hpython, h⟩ := Option.ite_none_right_eq_some.1 h
      cases h
      exact ⟨.python, rfl, hpython, fun _ => rfl⟩
    · rintro ⟨language, rfl, hfile, -⟩
      cases language with
      | java => rw [hjava] at hfile; cases hfile
      | python => exact if_pos hfile

/-- **The test of a module is below the test root, if its identifier begins with neither a dot nor a slash.** Then the
path is the root followed by the identifier with slashes for dots and by the ending of one of the two languages, and the
test in the first language is taken whenever it exists. An identifier that begins with a dot or a slash gives a path from
the root of all files, and the test root has no part in it: the path is the root followed by the names of the identifier
only where the test root is the root of all files. It can lie inside another test root all the same, if the identifier
itself spells out the names of that root. -/
theorem locateTestFile?_below_root (t : FileTree) (root : String) (m : ModuleInfo) :
    (∀ path, locateTestFile? t root m = some path ↔
      ∃ language, path = testPath root m language ∧ t.isFile path = true ∧
        (language = .python → t.isFile (testPath root m .java) = false)) ∧
    (m.beginsWithName = true →
      (∀ path, locateTestFile? t root m = some path → ∃ language, IsTestBelow t root m language path) ∧
      (t.isFile (Path.asDirectory root ++ m.path ++ "Test.java") = true →
        locateTestFile? t root m = some (Path.asDirectory root ++ m.path ++ "Test.java"))) ∧
    (m.beginsWithName = false → ∀ language,
      testPath root m language = m.path ++ "Test." ++ language.extension ∧
      (Path.components (testPath root m language) = Path.components root ++ (m.testNames language).map .normal ↔
        Path.components root = [.root])) := by
  refine ⟨fun path => locateTestFile?_eq_some_iff, fun hm => ⟨fun path hpath => ?_, fun hjava => ?_⟩,
    fun hm language => ?_⟩
  · obtain ⟨language, rfl, hfile, -⟩ := locateTestFile?_eq_some_iff.1 hpath
    exact ⟨language, isTestBelow_testPath hm hfile⟩
  · have hending : "Test." ++ Language.java.extension = "Test.java" := by decide
    have htext : testPath root m .java = Path.asDirectory root ++ m.path ++ "Test.java" := by
      rw [testPath_of_name hm, String.append_assoc, hending]
    rw [← htext] at hjava ⊢
    exact locateTestFile?_eq_some_iff.2 ⟨.java, rfl, hjava, fun hpython => by cases hpython⟩
  · rw [testPath_of_absolute hm, components_testFile_of_absolute hm]
    refine ⟨rfl, ?_⟩
    rw [← List.singleton_append, List.append_cancel_right_eq, eq_comm]

/-- Two tests of one name: one below a repository, in the second language, and one elsewhere. -/
def twoTests : FileTree where
  root := .directory
    [("repo", .directory [("com", .directory [("FooTest.py", .file .empty)])]),
      ("etc", .directory [("FooTest.java", .file .empty)])]
  current := []

/-- The test in the second language is found below the root, with nothing of the first there. -/
theorem locateTestFile?_below_root_twoTests :
    locateTestFile? twoTests "/repo" ⟨"Foo", "com.Foo", []⟩ = some "/repo/com/FooTest.py" ∧
      ∃ language, IsTestBelow twoTests "/repo" ⟨"Foo", "com.Foo", []⟩ language "/repo/com/FooTest.py" := by
  have hfound : locateTestFile? twoTests "/repo" ⟨"Foo", "com.Foo", []⟩ = some "/repo/com/FooTest.py" := by
    decide +kernel
  exact ⟨hfound, ((locateTestFile?_below_root _ _ _).2.1 (by decide)).1 _ hfound⟩

/-- With a dot in front of the identifier, a test outside the root is found, and the one below it is not. -/
theorem locateTestFile?_leadingDot :
    locateTestFile? twoTests "/repo" ⟨"Foo", ".etc.Foo", []⟩ = some "/etc/FooTest.java" ∧
      ¬ Path.components "/repo" <+: Path.components "/etc/FooTest.java" ∧
      twoTests.isFile "/etc//FooTest.java" = true ∧ locateTestFile? twoTests "/etc" ⟨"Foo", ".Foo", []⟩ = none := by
  decide +kernel

end ConfigCoverage
