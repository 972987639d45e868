import ConfigCoverage.Proofs.CoverageSums

/-!
# Modules by their names

A module has a simple name and an identifier, which is its full name if it declares one. By these names it is selected
and skipped. The empty text stands for a full name that is not declared, so that as a name it also finds modules that
nobody has named.

* `Catalog.get?_eq_some_iff`: what a name finds.
* `Catalog.answers_get?`: a name that is not empty finds a module of that name, if there is one.
* `Catalog.named_alone`: the exact condition for all names, and for skipping.
-/

namespace ConfigCoverage

/-- `m` is the first of the modules that have the property. -/
def FirstWith (p : ModuleInfo → Prop) (modules : List ModuleInfo) (m : ModuleInfo) : Prop :=
  p m ∧ ∃ before after, modules = before ++ m :: after ∧ ∀ other ∈ before, ¬ p other

namespace ModuleInfo

/-- Is this a name of the module, its simple name or its identifier? -/
def IsNamed (m : ModuleInfo) (name : String) : Prop := name = m.name ∨ name = m.identifier

instance (m : ModuleInfo) (name : String) : Decidable (m.IsNamed name) :=
  inferInstanceAs (Decidable (name = m.name ∨ name = m.identifier))

/-- Does the module declare this full name? -/
def Declares (m : ModuleInfo) (name : String) : Prop := m.fullName ≠ "" ∧ m.fullName = name

theorem declares_iff {m : ModuleInfo} {name : String} (h : name ≠ "") : m.Declares name ↔ m.fullName = name := by
  constructor
  · exact And.right
  · rintro rfl
    exact ⟨h, rfl⟩

theorem isNamed_of_declares {m : ModuleInfo} {name : String} (h : m.Declares name) : m.IsNamed name := by
  obtain ⟨hne, rfl⟩ := h
  right
  rw [identifier, if_neg hne]

/-- The names of a module are its simple name and the full name that it declares. -/
theorem isNamed_iff {m : ModuleInfo} {name : String} : m.IsNamed name ↔ m.name = name ∨ m.Declares name := by
  constructor
  · rintro (rfl | h)
    · exact .inl rfl
    · unfold identifier at h
      split at h
      · exact .inl h.symm
      · next hne => exact .inr ⟨hne, h.symm⟩
  · rintro (rfl | h)
    · exact .inl rfl
    · exact isNamed_of_declares h

end ModuleInfo

section First

variable {p : ModuleInfo → Prop} {modules : List ModuleInfo} {m : ModuleInfo}

theorem find?_eq_some_iff_firstWith [DecidablePred p] :
    modules.find? (fun m => decide (p m)) = some m ↔ FirstWith p modules m := by
  simp [List.find?_eq_some_iff_append, FirstWith]

theorem FirstWith.mem (h : FirstWith p modules m) : m ∈ modules := by
  obtain ⟨-, before, after, rfl, -⟩ := h
  simp

theorem FirstWith.unique [DecidablePred p] {n : ModuleInfo} (hm : FirstWith p modules m) (hn : FirstWith p modules n) :
    m = n :=
  Option.some.inj ((find?_eq_some_iff_firstWith.2 hm).symm.trans (find?_eq_some_iff_firstWith.2 hn))

theorem exists_firstWith [DecidablePred p] (hm : m ∈ modules) (h : p m) : ∃ first, FirstWith p modules first := by
  cases hfind : modules.find? (fun m => decide (p m)) with
  | none => exact absurd (decide_eq_true h) (List.find?_eq_none.1 hfind m hm)
  | some first => exact ⟨first, find?_eq_some_iff_firstWith.1 hfind⟩

end First

namespace Catalog

variable {c : Catalog} {name : String} {m : ModuleInfo}

/-- What a name finds: the first module whose full name it is, and if there is none, the first whose simple name it
is. -/
theorem get?_eq_some_iff :
    c.get? name = some m ↔ FirstWith (·.fullName = name) c.modules m ∨
      (∀ other ∈ c.modules, other.fullName ≠ name) ∧ FirstWith (·.name = name) c.modules m := by
  have hget : c.get? name = (c.modules.find? fun m => decide (m.fullName = name)).orElse fun _ =>
      c.modules.find? fun m => decide (m.name = name) := rfl
  rw [hget]
  cases hfull : c.modules.find? (fun m => decide (m.fullName = name)) with
  | some first =>
    have hfirst : first ∈ c.modules ∧ first.fullName = name :=
      ⟨List.mem_of_find?_eq_some hfull, by simpa using List.find?_some hfull⟩
    rw [← find?_eq_some_iff_firstWith, hfull]
    constructor
    · exact Or.inl
    · rintro (h | ⟨hnone, -⟩)
      · exact h
      · exact absurd hfirst.2 (hnone first hfirst.1)
  | none =>
    have hnone : ∀ other ∈ c.modules, other.fullName ≠ name := fun other ho => by
      simpa using List.find?_eq_none.1 hfull other ho
    rw [← find?_eq_some_iff_firstWith, hfull, Option.orElse_none, find?_eq_some_iff_firstWith]
    constructor
    · exact fun h => .inr ⟨hnone, h⟩
    · rintro (h | ⟨-, h⟩)
      · cases h
      · exact h

theorem get?_eq_none_iff : c.get? name = none ↔ ∀ m ∈ c.modules, m.fullName ≠ name ∧ m.name ≠ name := by
  constructor
  · intro h
    have hfull : ∀ m ∈ c.modules, m.fullName ≠ name := fun m hm heq => by
      obtain ⟨first, hfirst⟩ := exists_firstWith (p := (·.fullName = name)) hm heq
      rw [get?_eq_some_iff.2 (.inl hfirst)] at h
      cases h
    refine fun m hm => ⟨hfull m hm, fun heq => ?_⟩
    obtain ⟨first, hfirst⟩ := exists_firstWith (p := (·.name = name)) hm heq
    rw [get?_eq_some_iff.2 (.inr ⟨hfull, hfirst⟩)] at h
    cases h
  · intro h
    cases hget : c.get? name with
    | none => rfl
    | some m =>
      rcases get?_eq_some_iff.1 hget with hm | ⟨-, hm⟩
      · exact absurd hm.1 (h m hm.mem).1
      · exact absurd hm.1 (h m hm.mem).2

/-- The answer to a name: a module of that name, the first that declares it as its full name and else the first with it
as its simple name, and nothing only if no module has the name. -/
structure Answers (c : Catalog) (name : String) (answer : Option ModuleInfo) : Prop where
  named : ∀ m, answer = some m → m ∈ c.modules ∧ m.IsNamed name
  full : ∀ m, FirstWith (·.Declares name) c.modules m → answer = some m
  simple : (∀ other ∈ c.modules, ¬ other.Declares name) → ∀ m, FirstWith (·.name = name) c.modules m → answer = some m
  missing : answer = none → ∀ m ∈ c.modules, ¬ m.IsNamed name

/-- A name that is not empty is answered by modules of that name alone. -/
theorem answers_get? (h : name ≠ "") : c.Answers name (c.get? name) where
  named m hm := by
    rcases get?_eq_some_iff.1 hm with hm | ⟨-, hm⟩
    · exact ⟨hm.mem, ModuleInfo.isNamed_of_declares ((ModuleInfo.declares_iff h).2 hm.1)⟩
    · exact ⟨hm.mem, ModuleInfo.isNamed_iff.2 (.inl hm.1)⟩
  full m hm := by
    simp only [ModuleInfo.declares_iff h] at hm
    exact get?_eq_some_iff.2 (.inl hm)
  simple hnone m hm := by
    simp only [ModuleInfo.declares_iff h] at hnone
    exact get?_eq_some_iff.2 (.inr ⟨hnone, hm⟩)
  missing hget m hm hnamed := by
    obtain ⟨hfull, hsimple⟩ := get?_eq_none_iff.1 hget m hm
    rcases ModuleInfo.isNamed_iff.1 hnamed with heq | hd
    · exact hsimple heq
    · exact hfull hd.2

/-- The empty name finds the first module without a full name, so the answer is right only if this module happens to be
the first with an empty simple name. -/
theorem answers_get?_empty_iff :
    c.Answers "" (c.get? "") ↔
      ∀ m, FirstWith (·.fullName = "") c.modules m → FirstWith (·.name = "") c.modules m := by
  have hnot : ∀ m : ModuleInfo, ¬ m.Declares "" := fun m hm => hm.1 hm.2
  have hnamed : ∀ m : ModuleInfo, m.IsNamed "" ↔ m.name = "" := fun m => by
    rw [ModuleInfo.isNamed_iff, or_iff_left (hnot m)]
  constructor
  · intro h m hm
    have hget : c.get? "" = some m := get?_eq_some_iff.2 (.inl hm)
    obtain ⟨first, hfirst⟩ := exists_firstWith (p := (·.name = "")) hm.mem ((hnamed m).1 (h.named m hget).2)
    have hsame : c.get? "" = some first := h.simple (fun other _ => hnot other) first hfirst
    rw [hget, Option.some.injEq] at hsame
    rw [hsame]
    exact hfirst
  · intro h
    refine ⟨fun m hm => ?_, fun m hm => absurd hm.1 (hnot m), fun _ m hm => ?_, fun hget m hm hn => ?_⟩
    · rcases get?_eq_some_iff.1 hm with hm | ⟨-, hm⟩
      · exact ⟨hm.mem, (hnamed m).2 (h m hm).1⟩
      · exact ⟨hm.mem, (hnamed m).2 hm.1⟩
    · by_cases hfull : ∀ other ∈ c.modules, other.fullName ≠ ""
      · exact get?_eq_some_iff.2 (.inr ⟨hfull, hm⟩)
      · simp only [Classical.not_forall, Decidable.not_not] at hfull
        obtain ⟨other, ho, heq⟩ := hfull
        obtain ⟨first, hfirst⟩ := exists_firstWith (p := (·.fullName = "")) ho heq
        rw [hm.unique (h first hfirst)]
        exact get?_eq_some_iff.2 (.inl hfirst)
    · exact (get?_eq_none_iff.1 hget m hm).2 ((hnamed m).1 hn)

/-- An entry of a skip list skips the modules of that name; the empty entry also skips those without a full name. -/
theorem isSkipped_iff_named {skip : List String} :
    m.isSkipped skip = true ↔ (∃ entry ∈ skip, m.IsNamed entry) ∨ ("" ∈ skip ∧ m.fullName = "") := by
  rw [ModuleInfo.isSkipped_eq_true_iff]
  constructor
  · rintro (hname | hfull)
    · exact .inl ⟨m.name, hname, .inl rfl⟩
    · by_cases hempty : m.fullName = ""
      · exact .inr ⟨hempty ▸ hfull, hempty⟩
      · exact .inl ⟨m.fullName, hfull, ModuleInfo.isNamed_of_declares ⟨hempty, rfl⟩⟩
  · rintro (⟨entry, he, hentry⟩ | ⟨hempty, hfull⟩)
    · rcases ModuleInfo.isNamed_iff.1 hentry with rfl | ⟨-, rfl⟩
      · exact .inl he
      · exact .inr he
    · exact .inr (hfull ▸ hempty)

/-- **Only modules that are named are selected and skipped, but for the empty name.** A name is answered as it should be,
unless it is empty and there is a module without a full name that is not the first with an empty simple name; and a
module is skipped iff some entry is one of its names, or the empty text is an entry and the module has no full name. So
without empty names every module that is selected was named, and a selection fails only at a name that no module has. -/
theorem named_alone (c : Catalog) (skip : List String) :
    (∀ name, c.Answers name (c.get? name) ↔
      (name = "" → ∀ m, FirstWith (·.fullName = "") c.modules m → FirstWith (·.name = "") c.modules m)) ∧
    (∀ m : ModuleInfo, m.isSkipped skip = true ↔ (∃ entry ∈ skip, m.IsNamed entry) ∨ ("" ∈ skip ∧ m.fullName = "")) ∧
    ∀ names, names ≠ [] → "" ∉ names →
      (∀ modules, c.select names = .ok modules → ∀ m ∈ modules, m ∈ c.modules ∧ ∃ name ∈ names, m.IsNamed name) ∧
      (∀ fault, c.select names = .error fault →
        ∃ name ∈ names, fault = .unknownModule name ∧ ∀ m ∈ c.modules, ¬ m.IsNamed name) := by
  refine ⟨fun name => ?_, fun m => isSkipped_iff_named, fun names hne hempty => ⟨fun modules h m hm => ?_,
    fun fault h => ?_⟩⟩
  · by_cases hname : name = ""
    · subst hname
      rw [answers_get?_empty_iff]
      exact ⟨fun h _ => h, fun h => h rfl⟩
    · exact iff_of_true (answers_get? hname) fun heq => absurd heq hname
  · have hall : modules.map some = names.map c.get? := by
      have hselects := select_eq_ok_iff.1 h
      rwa [Selects, if_neg hne] at hselects
    obtain ⟨name, hn, hget⟩ := List.mem_map.1 (hall ▸ List.mem_map_of_mem hm)
    obtain ⟨hmem, hnamed⟩ := (answers_get? fun heq => hempty (heq ▸ hn)).named m hget
    exact ⟨hmem, name, hn, hnamed⟩
  · obtain ⟨name, hn, rfl, hget⟩ := select_eq_error h
    exact ⟨name, hn, rfl, (answers_get? fun heq => hempty (heq ▸ hn)).missing hget⟩

/-- The full name of one module goes before the simple name of another that comes first. -/
theorem named_alone_fullNameFirst :
    (Catalog.mk [⟨"b.C", "", []⟩, ⟨"C", "b.C", []⟩]).get? "b.C" = some ⟨"C", "b.C", []⟩ ∧
      (Catalog.mk [⟨"b.C", "", []⟩, ⟨"C", "b.C", []⟩]).Answers "b.C" (some ⟨"C", "b.C", []⟩) :=
  ⟨by decide, ((named_alone ⟨[⟨"b.C", "", []⟩, ⟨"C", "b.C", []⟩]⟩ []).1 "b.C").2 fun h => absurd h (by decide)⟩

/-- A module without a full name is found and skipped by the empty name, which is none of its names. -/
theorem get?_emptyName :
    (Catalog.mk [⟨"Checker", "", []⟩]).get? "" = some ⟨"Checker", "", []⟩ ∧
      (ModuleInfo.mk "Checker" "" []).isSkipped [""] = true ∧ ¬ (ModuleInfo.mk "Checker" "" []).IsNamed "" := by
  decide

end Catalog

end ConfigCoverage
