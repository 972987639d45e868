import ConfigCoverage.Property

/-!
# The names of setters

The name of a method is cut after as many bytes as the word has with which setters begin. What stands before the cut has
to be that word up to ASCII case, and what stands behind it names the property.

* `sameLetter_iff`, `caseVariant_iff`: texts are the same up to ASCII case iff their lower cases are equal.
* `splitBytes_eq_some_iff`: a text is cut between two characters, or not at all.
* `SetterParts`: the parts of the name of a setter, and the property that they name.
* `setterProperty_eq_some_iff`: a method is a setter iff its name has these parts.
* `setterProperty_exact`: all of it, and the three spellings of a setter for every property.
-/

namespace ConfigCoverage

/-! ## ASCII case -/

/-- The same character up to ASCII case: a small letter stands 32 places behind its capital. -/
def SameLetter (c d : Char) : Prop :=
  c = d ∨ (c.isUpper = true ∧ d.toNat = c.toNat + 32) ∨ (d.isUpper = true ∧ c.toNat = d.toNat + 32)

/-- The same text up to ASCII case, character by character. -/
inductive CaseVariant : List Char → List Char → Prop
  | nil : CaseVariant [] []
  | cons {c d : Char} {cs ds : List Char} : SameLetter c d → CaseVariant cs ds → CaseVariant (c :: cs) (d :: ds)

section Letters

variable {c d : Char}

theorem isUpper_iff_val : c.isUpper = true ↔ 'A'.val ≤ c.val ∧ c.val ≤ 'Z'.val := decide_eq_true_iff

theorem isLower_iff_val : c.isLower = true ↔ 'a'.val ≤ c.val ∧ c.val ≤ 'z'.val :=
  Bool.and_eq_true_iff.trans (and_congr decide_eq_true_iff decide_eq_true_iff)

theorem isUpper_iff_toNat : c.isUpper = true ↔ 65 ≤ c.toNat ∧ c.toNat ≤ 90 := by
  rw [isUpper_iff_val, UInt32.le_iff_toNat_le, UInt32.le_iff_toNat_le]
  exact Iff.rfl

theorem isLower_iff_toNat : c.isLower = true ↔ 97 ≤ c.toNat ∧ c.toNat ≤ 122 := by
  rw [isLower_iff_val, UInt32.le_iff_toNat_le, UInt32.le_iff_toNat_le]
  exact Iff.rfl

theorem toNat_toLower (c : Char) : c.toLower.toNat = if c.isUpper then c.toNat + 32 else c.toNat := by
  by_cases h : c.isUpper = true
  · have hplace := isUpper_iff_toNat.1 h
    have hlower : c.toLower = _ := dif_pos (isUpper_iff_val.1 h)
    rw [if_pos h, hlower]
    show (c.val + ('a'.val - 'A'.val)).toNat = c.toNat + 32
    rw [UInt32.toNat_add]
    show (c.toNat + 32) % 4294967296 = c.toNat + 32
    omega
  · have hlower : c.toLower = c := dif_neg fun hval => h (isUpper_iff_val.2 hval)
    rw [if_neg h, hlower]

theorem toNat_toUpper (c : Char) : c.toUpper.toNat = if c.isLower then c.toNat - 32 else c.toNat := by
  by_cases h : c.isLower = true
  · have hplace := isLower_iff_toNat.1 h
    have hupper : c.toUpper = _ := dif_pos (isLower_iff_val.1 h)
    rw [if_pos h, hupper]
    show (c.val + ('A'.val - 'a'.val)).toNat = c.toNat - 32
    rw [UInt32.toNat_add]
    -- 32 is taken away by adding the rest of the word
    show (c.toNat + 4294967264) % 4294967296 = c.toNat - 32
    omega
  · have hupper : c.toUpper = c := dif_neg fun hval => h (isLower_iff_val.2 hval)
    rw [if_neg h, hupper]

/-- Characters are the same up to ASCII case iff their lower cases are equal. -/
theorem sameLetter_iff : SameLetter c d ↔ c.toLower = d.toLower := by
  rw [SameLetter, ← Char.toNat_inj, ← Char.toNat_inj, toNat_toLower, toNat_toLower]
  simp only [isUpper_iff_toNat]
  split <;> split <;> omega

theorem utf8Size_of_isUpper (h : c.isUpper = true) : c.utf8Size = 1 ∧ (d.toNat = c.toNat + 32 → d.utf8Size = 1) := by
  have hplace := isUpper_iff_toNat.1 h
  have hascii : ∀ {e : Char}, e.toNat ≤ 127 → e.utf8Size = 1 := fun {e} he =>
    Char.utf8Size_eq_one_iff.2 (UInt32.le_iff_toNat_le.2 he)
  exact ⟨hascii (by omega), fun hd => hascii (by omega)⟩

/-- ASCII case does not change the number of bytes. -/
theorem SameLetter.utf8Size_eq (h : SameLetter c d) : c.utf8Size = d.utf8Size := by
  rcases h with rfl | ⟨hc, hd⟩ | ⟨hd, hc⟩
  · rfl
  · rw [(utf8Size_of_isUpper (d := d) hc).1, (utf8Size_of_isUpper hc).2 hd]
  · rw [(utf8Size_of_isUpper (d := c) hd).1, (utf8Size_of_isUpper hd).2 hc]

end Letters

section Texts

variable {cs ds : List Char}

/-- Texts are the same up to ASCII case iff their lower cases are equal. -/
theorem caseVariant_iff : CaseVariant cs ds ↔ cs.map Char.toLower = ds.map Char.toLower := by
  constructor
  · intro h
    induction h with
    | nil => rfl
    | cons hc _ ih => rw [List.map_cons, List.map_cons, sameLetter_iff.1 hc, ih]
  · intro h
    induction cs generalizing ds with
    | nil =>
      rw [List.map_nil, eq_comm, List.map_eq_nil_iff] at h
      rw [h]
      exact .nil
    | cons c cs ih =>
      cases ds with
      | nil => cases h
      | cons d ds =>
        rw [List.map_cons, List.map_cons, List.cons.injEq] at h
        exact .cons (sameLetter_iff.2 h.1) (ih h.2)

instance : DecidableRel CaseVariant := fun _ _ => decidable_of_iff _ caseVariant_iff.symm

theorem utf8ByteSize_ofList_cons (c : Char) (cs : List Char) :
    (String.ofList (c :: cs)).utf8ByteSize = c.utf8Size + (String.ofList cs).utf8ByteSize := by
  rw [String.ofList_cons, String.utf8ByteSize_append, String.utf8ByteSize_singleton]

theorem CaseVariant.utf8ByteSize_eq (h : CaseVariant cs ds) :
    (String.ofList cs).utf8ByteSize = (String.ofList ds).utf8ByteSize := by
  induction h with
  | nil => rfl
  | cons hc _ ih => rw [utf8ByteSize_ofList_cons, utf8ByteSize_ofList_cons, hc.utf8Size_eq, ih]

end Texts

/-! ## Cuts -/

/-- A text is cut after `n` bytes iff some characters at its beginning have that many. -/
theorem splitBytes_eq_some_iff {n : Nat} {cs head rest : List Char} :
    splitBytes n cs = some (head, rest) ↔ cs = head ++ rest ∧ (String.ofList head).utf8ByteSize = n := by
  fun_induction splitBytes n cs generalizing head with
  | case1 cs =>
    cases head with
    | nil => simp [eq_comm]
    | cons c head =>
      refine iff_of_false (by simp) fun ⟨_, hbytes⟩ => ?_
      have hpos := c.utf8Size_pos
      rw [utf8ByteSize_ofList_cons] at hbytes
      omega
  | case2 n =>
    refine iff_of_false (by simp) fun ⟨hcs, hbytes⟩ => ?_
    rw [(List.append_eq_nil_iff.1 hcs.symm).1] at hbytes
    cases hbytes
  | case3 n c cs hsize ih =>
    rw [Option.map_eq_some_iff]
    constructor
    · rintro ⟨⟨head', rest'⟩, hsplit, heq⟩
      cases heq
      obtain ⟨rfl, hbytes⟩ := ih.1 hsplit
      rw [utf8ByteSize_ofList_cons, hbytes]
      exact ⟨rfl, by omega⟩
    · rintro ⟨hcs, hbytes⟩
      cases head with
      | nil => cases hbytes
      | cons d head =>
        rw [List.cons_append, List.cons.injEq] at hcs
        obtain ⟨rfl, hcs⟩ := hcs
        rw [utf8ByteSize_ofList_cons] at hbytes
        exact ⟨(head, rest), ih.2 ⟨hcs, by omega⟩, rfl⟩
  | case4 n c cs hsize =>
    -- the cut would stand inside the first character
    refine iff_of_false (by simp) fun ⟨hcs, hbytes⟩ => ?_
    cases head with
    | nil => cases hbytes
    | cons d head =>
      rw [List.cons_append, List.cons.injEq] at hcs
      obtain ⟨rfl, hcs⟩ := hcs
      rw [utf8ByteSize_ofList_cons] at hbytes
      omega

/-- One underscore goes, if there is one in front. -/
theorem dropUnderscore_eq_iff {cs ds : List Char} :
    dropUnderscore cs = ds ↔ cs = '_' :: ds ∨ (cs.head? ≠ some '_' ∧ cs = ds) := by
  fun_cases dropUnderscore cs with
  | case1 cs => simp
  | case2 cs h =>
    have hhead : cs.head? ≠ some '_' := by
      intro hhead
      obtain ⟨rest, hrest⟩ := List.head?_eq_some_iff.1 hhead
      exact h rest hrest
    constructor
    · exact fun heq => .inr ⟨hhead, heq⟩
    · rintro (heq | ⟨-, heq⟩)
      · exact absurd heq (h ds)
      · exact heq

/-! ## Setters -/

/-- The name of a method in the parts of a setter: a word like `start`, perhaps an underscore, and the property. -/
structure SetterParts (start method : String) where
  head : String
  separator : String
  first : Char
  rest : String
  spelled : method = head ++ (separator ++ String.singleton first ++ rest)
  size : head.utf8ByteSize = start.utf8ByteSize
  variant : CaseVariant head.toList start.toList
  separated : separator =
    if (separator ++ String.singleton first ++ rest).toList.head? = some '_' then "_" else ""

/-- The property that the parts of a setter name. -/
def SetterParts.property {start method : String} (s : SetterParts start method) : String :=
  String.ofList (lowercase s.first) ++ s.rest

section Setters

variable {start method name : String}

/-- What is behind the head loses its separator, and nothing else. -/
theorem SetterParts.dropUnderscore_eq (s : SetterParts start method) :
    dropUnderscore (s.separator ++ String.singleton s.first ++ s.rest).toList = s.first :: s.rest.toList := by
  have hseparated := s.separated
  rw [dropUnderscore_eq_iff]
  split at hseparated
  · left
    rw [hseparated]
    simp
  · next hhead =>
    refine .inr ⟨hhead, ?_⟩
    rw [hseparated]
    simp

theorem SetterParts.setterProperty_eq (s : SetterParts start method) :
    setterProperty start method = some s.property := by
  have hsplit : splitBytes start.utf8ByteSize method.toList =
      some (s.head.toList, (s.separator ++ String.singleton s.first ++ s.rest).toList) := by
    refine splitBytes_eq_some_iff.2 ⟨?_, ?_⟩
    · rw [← String.toList_append, ← s.spelled]
    · rw [String.ofList_toList, s.size]
  unfold setterProperty
  simp only [hsplit, if_pos (caseVariant_iff.1 s.variant), s.dropUnderscore_eq]
  rw [String.ofList_append, String.ofList_toList]
  rfl

/-- The characters behind the head are a separator and the property. -/
theorem exists_separator {cs rest : List Char} {c : Char} (h : dropUnderscore cs = c :: rest) :
    ∃ separator : String, cs = (separator ++ String.singleton c ++ String.ofList rest).toList ∧
      separator = if cs.head? = some '_' then "_" else "" := by
  rcases dropUnderscore_eq_iff.1 h with rfl | ⟨hhead, rfl⟩
  · exact ⟨"_", by simp, by simp⟩
  · exact ⟨"", by simp, by rw [if_neg hhead]⟩

/-- Behind a word like `start`, all that is left without a separator names the property. -/
theorem setterProperty_append {head after rest : String} {c : Char} (hvariant : CaseVariant head.toList start.toList)
    (hafter : dropUnderscore after.toList = c :: rest.toList) :
    setterProperty start (head ++ after) = some (String.ofList (lowercase c) ++ rest) := by
  obtain ⟨separator, hspelled, hseparated⟩ := exists_separator hafter
  rw [String.ofList_toList, String.toList_inj] at hspelled
  rw [hspelled] at hseparated
  have hsize := hvariant.utf8ByteSize_eq
  rw [String.ofList_toList, String.ofList_toList] at hsize
  exact SetterParts.setterProperty_eq ⟨head, separator, c, rest, by rw [hspelled], hsize, hvariant, hseparated⟩

/-- A method is a setter iff its name has the parts of one. -/
theorem setterProperty_eq_some_iff :
    setterProperty start method = some name ↔ ∃ s : SetterParts start method, s.property = name := by
  constructor
  · intro h
    unfold setterProperty at h
    cases hsplit : splitBytes start.utf8ByteSize method.toList with
    | none => simp [hsplit] at h
    | some parts =>
      obtain ⟨head, after⟩ := parts
      simp only [hsplit] at h
      obtain ⟨hvariant, hname⟩ := Option.ite_none_right_eq_some.1 h
      obtain ⟨hmethod, hsize⟩ := splitBytes_eq_some_iff.1 hsplit
      cases hdrop : dropUnderscore after with
      | nil => simp [hdrop] at hname
      | cons c rest =>
        simp only [hdrop, Option.some.injEq] at hname
        obtain ⟨separator, rfl, hseparated⟩ := exists_separator hdrop
        refine ⟨⟨String.ofList head, separator, c, String.ofList rest, String.toList_inj.1 ?_, hsize, ?_, hseparated⟩,
          ?_⟩
        · rw [hmethod, String.toList_append (s := String.ofList head), String.toList_ofList]
        · rw [String.toList_ofList]
          exact caseVariant_iff.2 hvariant
        · rw [← hname, String.ofList_append]
          rfl
  · rintro ⟨s, rfl⟩
    exact s.setterProperty_eq

theorem SetterParts.property_ne_empty (s : SetterParts start method) : s.property ≠ "" := by
  intro h
  have hchars := String.toList_inj.2 h
  rw [property, String.toList_append, String.toList_ofList, String.toList_empty] at hchars
  exact lowercase_ne_nil s.first (List.append_eq_nil_iff.1 hchars).1

/-- A small letter and its capital have the same lower case, which is the small letter. -/
theorem lowercase_of_isLower {c : Char} (h : c.isLower = true) : lowercase c = [c] ∧ lowercase c.toUpper = [c] := by
  have hplace := isLower_iff_toNat.1 h
  have hupper := toNat_toUpper c
  rw [if_pos h] at hupper
  have hcapital : SameLetter c.toUpper c := .inr (.inl ⟨isUpper_iff_toNat.2 (by omega), by omega⟩)
  have hlower : c.toLower = c := by
    rw [← Char.toNat_inj, toNat_toLower, if_neg]
    rw [isUpper_iff_toNat]
    omega
  unfold lowercase
  rw [if_pos (by omega), if_pos (by omega), sameLetter_iff.1 hcapital, hlower]
  exact ⟨rfl, rfl⟩

theorem dropUnderscore_of_ne {c : Char} {cs : List Char} (h : c ≠ '_') : dropUnderscore (c :: cs) = c :: cs :=
  dropUnderscore_eq_iff.2 (.inr ⟨by simpa using h, rfl⟩)

/-- Every property that begins with a small letter has setters in three spellings. -/
theorem setterProperty_spellings {head : String} (hvariant : CaseVariant head.toList start.toList) {first : Char}
    (hfirst : first.isLower = true) (rest : String) :
    setterProperty start (head ++ (String.singleton first ++ rest)) = some (String.singleton first ++ rest) ∧
      setterProperty start (head ++ (String.singleton first.toUpper ++ rest)) = some (String.singleton first ++ rest) ∧
      setterProperty start (head ++ "_" ++ (String.singleton first ++ rest)) =
        some (String.singleton first ++ rest) := by
  obtain ⟨hlower, hcapital⟩ := lowercase_of_isLower hfirst
  have hplace := isLower_iff_toNat.1 hfirst
  have hupper := toNat_toUpper first
  rw [if_pos hfirst] at hupper
  have hne : ∀ {c : Char}, c.toNat ≠ 95 → c ≠ '_' := fun hc heq => hc (by rw [heq]; rfl)
  rw [String.singleton_eq_ofList, ← hlower, String.append_assoc]
  refine ⟨setterProperty_append hvariant ?_, ?_, setterProperty_append hvariant ?_⟩
  · rw [hlower, String.toList_append, String.toList_ofList]
    exact dropUnderscore_of_ne (hne (by omega))
  · rw [hlower, ← hcapital]
    refine setterProperty_append hvariant ?_
    rw [String.toList_append, String.toList_singleton]
    exact dropUnderscore_of_ne (hne (by omega))
  · rw [hlower]
    exact dropUnderscore_eq_iff.2 (.inl (by simp))

end Setters

/-- **Setters are recognised exactly.** A method sets the property `name` iff its name is a beginning of as many bytes
as `start` that is the same up to ASCII case, an underscore if one stands there, and then the property, which loses the
capital of its first character; all other methods set nothing, also where no beginning of whole characters has as many
bytes. A property always has a name. Whatever the case of the beginning, a property with a small ASCII letter in front
is set under its own name, with a capital, and behind an underscore. -/
theorem setterProperty_exact (start : String) :
    (∀ method name, setterProperty start method = some name ↔ ∃ s : SetterParts start method, s.property = name) ∧
    (∀ method, setterProperty start method = none ↔ ¬ Nonempty (SetterParts start method)) ∧
    (∀ method, (∀ head rest, method = head ++ rest → head.utf8ByteSize ≠ start.utf8ByteSize) →
      setterProperty start method = none) ∧
    (∀ method name, setterProperty start method = some name → name ≠ "") ∧
    ∀ head : String, CaseVariant head.toList start.toList → ∀ (first : Char) (rest : String), first.isLower = true →
      setterProperty start (head ++ (String.singleton first ++ rest)) = some (String.singleton first ++ rest) ∧
      setterProperty start (head ++ (String.singleton first.toUpper ++ rest)) = some (String.singleton first ++ rest) ∧
      setterProperty start (head ++ "_" ++ (String.singleton first ++ rest)) =
        some (String.singleton first ++ rest) := by
  have hnone : ∀ method, setterProperty start method = none ↔ ¬ Nonempty (SetterParts start method) := by
    intro method
    constructor
    · rintro h ⟨s⟩
      rw [s.setterProperty_eq] at h
      cases h
    · intro h
      refine Option.eq_none_iff_forall_ne_some.2 fun name hname => ?_
      obtain ⟨s, -⟩ := setterProperty_eq_some_iff.1 hname
      exact h ⟨s⟩
  refine ⟨fun _ _ => setterProperty_eq_some_iff, hnone, fun method h => ?_, fun method name h => ?_, ?_⟩
  · exact (hnone method).2 fun ⟨s⟩ => h s.head _ s.spelled s.size
  · obtain ⟨s, rfl⟩ := setterProperty_eq_some_iff.1 h
    exact s.property_ne_empty
  · exact fun head hvariant first rest hfirst => setterProperty_spellings hvariant hfirst rest

/-- A beginning with a letter of two bytes in any case of its other letters, and one whose bytes end inside a letter. -/
theorem setterProperty_exact_accented :
    (CaseVariant "SéT".toList "sét".toList ∧ setterProperty "sét" "SéTmax" = some "max" ∧
      setterProperty "sét" "SéTMax" = some "max" ∧ setterProperty "sét" "SéT_max" = some "max") ∧
    setterProperty "ss" "sémax" = none := by
  have hvariant : CaseVariant "SéT".toList "sét".toList := by decide
  have hinside : ∀ head rest, "sémax" = head ++ rest → head.utf8ByteSize ≠ "ss".utf8ByteSize := by
    intro head rest hmethod hsize
    have hcut : splitBytes 2 "sémax".toList = some (head.toList, rest.toList) :=
      splitBytes_eq_some_iff.2 ⟨by rw [hmethod, String.toList_append], by rw [String.ofList_toList]; exact hsize⟩
    have hnone : splitBytes 2 "sémax".toList = none := by decide
    rw [hnone] at hcut
    cases hcut
  obtain ⟨-, -, -, -, hspellings⟩ := setterProperty_exact "sét"
  obtain ⟨-, -, hboundary, -⟩ := setterProperty_exact "ss"
  exact ⟨⟨hvariant, hspellings "SéT" hvariant 'm' "ax" rfl⟩, hboundary "sémax" hinside⟩

/-- Of two underscores one belongs to the property. -/
example : setterProperty "set" "SET__max" = some "_max" := by decide

end ConfigCoverage
