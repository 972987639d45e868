import ConfigCoverage.Json.Parser

/-!
# Reading back what was written

Both ways to write a value spell the same tokens, and the tokens of a value are read as that value. This is for values
of texts, lists and records, which is all that results and catalogs are made of.

* `token?_quote`: a text in quotes is read as that text, whatever characters are in it.
* `writeCompact_scans`, `writePretty_scans`: blanks and line breaks aside, both texts of a value are its tokens.
* `value?_tokensOf`: the tokens of a value are read as the value, and nothing after them is touched.
* `parse?_compact`, `parse?_pretty`: both texts of a value are read as the value.
-/

namespace ConfigCoverage.Json

/-! ## Strings -/

theorem digitValue?_hexDigit : ∀ n < 16, digitValue? (hexDigit n) = some n := by decide

/-- A control character written by its number is read as that number. -/
theorem hexNumber?_hexDigits {n : Nat} (h : n < 32) :
    hexNumber? ['0', '0', hexDigit (n / 16), hexDigit (n % 16)] = some n := by
  have hzero : digitValue? '0' = some 0 := by decide
  have hhigh : digitValue? (hexDigit (n / 16)) = some (n / 16) := digitValue?_hexDigit _ (by omega)
  have hlow : digitValue? (hexDigit (n % 16)) = some (n % 16) := digitValue?_hexDigit _ (by omega)
  simp only [hexNumber?, List.foldl_cons, List.foldl_nil, hzero, hhigh, hlow, Option.bind_some, Option.map_some,
    Option.some.injEq]
  omega

/-- The piece `p` stands for the character `c`, whatever comes after it. -/
def Piece.Spells (p : Piece) (c : Char) : Prop := ∀ ps, joinPieces? (p :: ps) = (joinPieces? ps).map (c :: ·)

theorem Piece.Spells.char (c : Char) : (Piece.char c).Spells c := fun ps => by rw [joinPieces?]

/-- A unit that is no half of a pair is a character of its own, also in front of another unit. -/
theorem Piece.Spells.unit {c : Char} (h : c.toNat < 32) : (Piece.unit c.toNat).Spells c := by
  have hhigh : Encoding.isHighSurrogate c.toNat = false := by
    simp only [Encoding.isHighSurrogate, Bool.and_eq_false_iff, decide_eq_false_iff_not]
    omega
  have hlow : Encoding.isLowSurrogate c.toNat = false := by
    simp only [Encoding.isLowSurrogate, Bool.and_eq_false_iff, decide_eq_false_iff_not]
    omega
  intro ps
  rcases ps with _ | ⟨d | m, ps⟩
  · simp [joinPieces?, hhigh, hlow, Char.ofNat_toNat]
  · simp [joinPieces?, hhigh, hlow, Char.ofNat_toNat]
  · simp [joinPieces?, hhigh, hlow, Char.ofNat_toNat]

/-- A short escape is read as the character it stands for. -/
theorem pieces?_escaped {letter c : Char} (hu : letter ≠ 'u') (h : escaped? letter = some c) (rest : List Char) :
    pieces? ('\\' :: letter :: rest) = (pieces? rest).map fun r => (.char c :: r.1, r.2) := by
  rw [pieces?, h]
  · cases pieces? rest <;> rfl
  · intro _ _ _ _ _ hl
    exact absurd hl hu

theorem pieces?_unit {n : Nat} (h : n < 32) (rest : List Char) :
    pieces? ('\\' :: 'u' :: '0' :: '0' :: hexDigit (n / 16) :: hexDigit (n % 16) :: rest) =
      (pieces? rest).map fun r => (.unit n :: r.1, r.2) := by
  rw [pieces?, hexNumber?_hexDigits h]
  cases pieces? rest <;> rfl

theorem pieces?_plain {c : Char} (hquote : c ≠ '"') (hslash : c ≠ '\\') (h : ¬ c.toNat < 32) (rest : List Char) :
    pieces? (c :: rest) = (pieces? rest).map fun r => (.char c :: r.1, r.2) := by
  rw [pieces?, if_neg (by simp [h, hslash])]
  · cases pieces? rest <;> rfl
  · exact hquote
  · exact fun _ _ _ _ _ hc => absurd hc hslash
  · exact fun _ _ hc => absurd hc hslash

/-- A character is written by a letter after a backslash, by its number, or as it is. -/
theorem escapeChar_cases (c : Char) :
    (∃ letter, letter ≠ 'u' ∧ escaped? letter = some c ∧ escapeChar c = ['\\', letter]) ∨
    (c.toNat < 32 ∧
      escapeChar c = ['\\', 'u', '0', '0', hexDigit (c.toNat / 16), hexDigit (c.toNat % 16)]) ∨
    (c ≠ '"' ∧ c ≠ '\\' ∧ ¬ c.toNat < 32 ∧ escapeChar c = [c]) := by
  by_cases hshort : c = '"' ∨ c = '\\' ∨ c = '\x08' ∨ c = '\t' ∨ c = '\n' ∨ c = '\x0c' ∨ c = '\r'
  · left
    rcases hshort with rfl | rfl | rfl | rfl | rfl | rfl | rfl <;> exact ⟨_, by decide, rfl, rfl⟩
  · simp only [not_or] at hshort
    obtain ⟨h₁, h₂, h₃, h₄, h₅, h₆, h₇⟩ := hshort
    simp only [escapeChar, h₁, h₂, h₃, h₄, h₅, h₆, h₇, if_false]
    by_cases h : c.toNat < 32
    · exact .inr (.inl ⟨h, if_pos h⟩)
    · exact .inr (.inr ⟨h₁, h₂, h, if_neg h⟩)

/-- A character is read as one piece, which stands for it. -/
theorem pieces?_escapeChar (c : Char) :
    ∃ p : Piece, p.Spells c ∧ ∀ rest, pieces? (escapeChar c ++ rest) = (pieces? rest).map fun r => (p :: r.1, r.2) := by
  rcases escapeChar_cases c with ⟨letter, hu, hl, h⟩ | ⟨hc, h⟩ | ⟨hquote, hslash, hc, h⟩
  · rw [h]
    exact ⟨.char c, .char c, pieces?_escaped hu hl⟩
  · rw [h]
    exact ⟨.unit c.toNat, .unit hc, pieces?_unit hc⟩
  · rw [h]
    exact ⟨.char c, .char c, pieces?_plain hquote hslash hc⟩

/-- The pieces of a written text end at its closing quote, and together they are the text. -/
theorem pieces?_flatMap_escapeChar (cs : List Char) :
    ∃ ps, joinPieces? ps = some cs ∧ ∀ rest, pieces? (cs.flatMap escapeChar ++ '"' :: rest) = some (ps, rest) := by
  induction cs with
  | nil => exact ⟨[], rfl, fun rest => by simp [pieces?]⟩
  | cons c cs ih =>
    obtain ⟨p, hp, hc⟩ := pieces?_escapeChar c
    obtain ⟨ps, hps, hcs⟩ := ih
    refine ⟨p :: ps, by rw [hp, hps]; rfl, fun rest => ?_⟩
    rw [List.flatMap_cons, List.append_assoc, hc, hcs]
    rfl

/-- A text in quotes is read as that text. -/
theorem token?_quote (text : String) (rest : List Char) :
    token? (quote text ++ rest) = some (.string (some text), rest) := by
  obtain ⟨ps, hps, h⟩ := pieces?_flatMap_escapeChar text.toList
  have hq : quote text ++ rest = '"' :: (text.toList.flatMap escapeChar ++ '"' :: rest) := by simp [quote]
  rw [hq, token?, h]
  simp only [Option.map_some, hps, String.ofList_toList]

/-! ## Tokens -/

/-- The text `cs` is cut into the tokens `ts` and nothing after it has a part in that. The steps that this takes are no
more than the characters of `cs`. -/
def Scans (cs : List Char) (ts : List Token) : Prop :=
  ∃ k ≤ cs.length, ∀ n rest, tokens? (k + n) (cs ++ rest) = (tokens? n rest).map (ts ++ ·)

theorem Scans.nil : Scans [] [] := ⟨0, Nat.le_refl 0, fun n rest => by simp⟩

theorem Scans.append {cs ds : List Char} {ts us : List Token} (h : Scans cs ts) (h' : Scans ds us) :
    Scans (cs ++ ds) (ts ++ us) := by
  obtain ⟨k, hk, hcs⟩ := h
  obtain ⟨l, hl, hds⟩ := h'
  refine ⟨k + l, by rw [List.length_append]; omega, fun n rest => ?_⟩
  rw [List.append_assoc, Nat.add_assoc, hcs, hds, Option.map_map]
  congr 1
  funext vs
  simp

theorem Scans.blank {c : Char} (h : isJsonBlank c = true) : Scans [c] [] := by
  refine ⟨1, Nat.le_refl 1, fun n rest => ?_⟩
  rw [Nat.add_comm, List.singleton_append, tokens?, if_pos h]
  simp

/-- What is read as one token, whatever comes after it, is cut into that token. -/
theorem Scans.token {c : Char} {cs : List Char} {t : Token} (hb : isJsonBlank c = false)
    (h : ∀ rest, token? (c :: cs ++ rest) = some (t, rest)) : Scans (c :: cs) [t] := by
  refine ⟨1, by simp, fun n rest => ?_⟩
  rw [Nat.add_comm, List.cons_append, tokens?, hb, ← List.cons_append, h]
  rfl

theorem Scans.mark {c : Char} (h : isMark c = true) : Scans [c] [.mark c] := by
  have hc : c = '[' ∨ c = ']' ∨ c = '\x7b' ∨ c = '\x7d' ∨ c = ',' ∨ c = ':' := by
    simpa [isMark, or_assoc] using h
  rcases hc with rfl | rfl | rfl | rfl | rfl | rfl <;> exact .token (by decide) fun rest => rfl

theorem Scans.quote (text : String) : Scans (quote text) [.string (some text)] :=
  .token (by decide) fun rest => token?_quote text rest

theorem Scans.lineBreak (depth : Nat) : Scans (lineBreak depth) [] := by
  have hblanks : ∀ n, Scans (List.replicate n ' ') [] := by
    intro n
    induction n with
    | zero => exact .nil
    | succ n ih => exact Scans.append (.blank (by decide)) ih
  exact Scans.append (.blank (by decide)) (hblanks (2 * depth))

/-- A text that is cut into tokens is so with the steps that its length allows. -/
theorem Scans.tokens?_eq {cs : List Char} {ts : List Token} (h : Scans cs ts) : tokens? cs.length cs = some ts := by
  obtain ⟨k, hk, h⟩ := h
  obtain ⟨n, hn⟩ := Nat.exists_eq_add_of_le hk
  have h' := h n []
  rw [List.append_nil, ← hn] at h'
  rw [h', tokens?, Option.map_some, List.append_nil]

/-! ## Values -/

/-- A value without numbers, and without a part that is no value. -/
inductive Value.Textual : Value → Prop
  | null : Textual .null
  | bool (b : Bool) : Textual (.bool b)
  | string (text : String) : Textual (.string text)
  | array {items : List Value} : (∀ v ∈ items, Textual v) → Textual (.array items)
  | object {fields : List (String × Value)} : (∀ f ∈ fields, Textual f.2) → Textual (.object fields)

mutual

/-- The tokens of a value. -/
def tokensOf : Value → List Token
  | .null => [.null]
  | .bool b => [.bool b]
  | .number text => [.number text]
  | .string text => [.string (some text)]
  | .array items => .mark '[' :: itemTokens true items ++ [.mark ']']
  | .object fields => .mark '\x7b' :: fieldTokens true fields ++ [.mark '\x7d']
  | .broken => [.string none]

/-- The tokens of items, with a comma before each but the first. -/
def itemTokens : Bool → List Value → List Token
  | _, [] => []
  | first, v :: vs => (if first then [] else [.mark ',']) ++ tokensOf v ++ itemTokens false vs

/-- The tokens of fields, with a comma before each but the first. -/
def fieldTokens : Bool → List (String × Value) → List Token
  | _, [] => []
  | first, (k, v) :: fs =>
    (if first then [] else [.mark ',']) ++ .string (some k) :: .mark ':' :: tokensOf v ++ fieldTokens false fs

end

/-! ### Writing -/

theorem scans_comma (first : Bool) : Scans (if first then [] else [',']) (if first then [] else [.mark ',']) := by
  cases first
  · exact .mark (by decide)
  · exact .nil

theorem scans_writeLeaf {v : Value} (h : v = .null ∨ (∃ b, v = .bool b) ∨ ∃ text, v = .string text) :
    Scans (writeLeaf v) (tokensOf v) := by
  rcases h with rfl | ⟨b, rfl⟩ | ⟨text, rfl⟩
  · exact .token (by decide) fun rest => rfl
  · cases b
    · exact .token (by decide) fun rest => rfl
    · exact .token (by decide) fun rest => rfl
  · exact .quote text

theorem writeCompactItems_scans {items : List Value} (h : ∀ v ∈ items, Scans (writeCompact v) (tokensOf v))
    (first : Bool) : Scans (writeCompactItems first items) (itemTokens first items) := by
  induction items generalizing first with
  | nil => exact .nil
  | cons v vs ih =>
    have hv := h v List.mem_cons_self
    have hvs := ih (fun w hw => h w (List.mem_cons_of_mem v hw)) false
    rw [writeCompactItems, itemTokens]
    exact ((scans_comma first).append hv).append hvs

theorem writeCompactFields_scans {fields : List (String × Value)}
    (h : ∀ f ∈ fields, Scans (writeCompact f.2) (tokensOf f.2)) (first : Bool) :
    Scans (writeCompactFields first fields) (fieldTokens first fields) := by
  induction fields generalizing first with
  | nil => exact .nil
  | cons f fs ih =>
    obtain ⟨k, v⟩ := f
    have hv := h (k, v) List.mem_cons_self
    have hfs := ih (fun g hg => h g (List.mem_cons_of_mem _ hg)) false
    have hfield : Scans (quote k ++ ':' :: writeCompact v) (.string (some k) :: .mark ':' :: tokensOf v) :=
      (Scans.quote k).append (Scans.append (.mark (by decide)) hv)
    rw [writeCompactFields, fieldTokens]
    simpa using ((scans_comma first).append hfield).append hfs

/-- The text of a value on one line is its tokens. -/
theorem writeCompact_scans {v : Value} (h : v.Textual) : Scans (writeCompact v) (tokensOf v) := by
  induction h with
  | null => exact scans_writeLeaf (.inl rfl)
  | bool b => exact scans_writeLeaf (.inr (.inl ⟨b, rfl⟩))
  | string text => exact scans_writeLeaf (.inr (.inr ⟨text, rfl⟩))
  | array _ ih =>
    rw [writeCompact, tokensOf]
    exact (Scans.append (.mark (by decide)) (writeCompactItems_scans ih true)).append (.mark (by decide))
  | object _ ih =>
    rw [writeCompact, tokensOf]
    exact (Scans.append (.mark (by decide)) (writeCompactFields_scans ih true)).append (.mark (by decide))

theorem writePrettyItems_scans {items : List Value} {depth : Nat}
    (h : ∀ v ∈ items, Scans (writePretty depth v) (tokensOf v)) (first : Bool) :
    Scans (writePrettyItems depth first items) (itemTokens first items) := by
  induction items generalizing first with
  | nil => exact .nil
  | cons v vs ih =>
    have hv := h v List.mem_cons_self
    have hvs := ih (fun w hw => h w (List.mem_cons_of_mem v hw)) false
    rw [writePrettyItems, itemTokens]
    simpa using (((scans_comma first).append (.lineBreak depth)).append hv).append hvs

theorem writePrettyFields_scans {fields : List (String × Value)} {depth : Nat}
    (h : ∀ f ∈ fields, Scans (writePretty depth f.2) (tokensOf f.2)) (first : Bool) :
    Scans (writePrettyFields depth first fields) (fieldTokens first fields) := by
  induction fields generalizing first with
  | nil => exact .nil
  | cons f fs ih =>
    obtain ⟨k, v⟩ := f
    have hv := h (k, v) List.mem_cons_self
    have hfs := ih (fun g hg => h g (List.mem_cons_of_mem _ hg)) false
    have hfield : Scans (quote k ++ ':' :: ' ' :: writePretty depth v) (.string (some k) :: .mark ':' :: tokensOf v) :=
      (Scans.quote k).append (Scans.append (.mark (by decide)) (Scans.append (.blank (by decide)) hv))
    rw [writePrettyFields, fieldTokens]
    simpa using (((scans_comma first).append (.lineBreak depth)).append hfield).append hfs

/-- The text of a value on indented lines is its tokens, at any depth. -/
theorem writePretty_scans {v : Value} (h : v.Textual) (depth : Nat) : Scans (writePretty depth v) (tokensOf v) := by
  induction h generalizing depth with
  | null => exact scans_writeLeaf (.inl rfl)
  | bool b => exact scans_writeLeaf (.inr (.inl ⟨b, rfl⟩))
  | string text => exact scans_writeLeaf (.inr (.inr ⟨text, rfl⟩))
  | @array items _ ih =>
    have hopen : Scans ['['] [.mark '['] := .mark (by decide)
    have hclose : Scans [']'] [.mark ']'] := .mark (by decide)
    cases items with
    | nil => exact hopen.append hclose
    | cons v vs =>
      rw [writePretty, tokensOf]
      have hitems := writePrettyItems_scans (fun w hw => ih w hw (depth + 1)) true
      simpa using ((hopen.append hitems).append (.lineBreak depth)).append hclose
  | @object fields _ ih =>
    have hopen : Scans ['\x7b'] [.mark '\x7b'] := .mark (by decide)
    have hclose : Scans ['\x7d'] [.mark '\x7d'] := .mark (by decide)
    cases fields with
    | nil => exact hopen.append hclose
    | cons f fs =>
      rw [writePretty, tokensOf]
      have hfields := writePrettyFields_scans (fun g hg => ih g hg (depth + 1)) true
      simpa using ((hopen.append hfields).append (.lineBreak depth)).append hclose

/-! ### Reading -/

/-- The tokens `ts` are read as `v` with two steps for each of them, whatever comes after. -/
def ReadAs (ts : List Token) (v : Value) : Prop :=
  ∀ n rest, 2 * ts.length ≤ n → value? n (ts ++ rest) = some (v, rest)

theorem itemTokens_singleton (v : Value) : itemTokens true [v] = tokensOf v := by simp [itemTokens]

theorem itemTokens_cons_cons (v w : Value) (ws : List Value) :
    itemTokens true (v :: w :: ws) = tokensOf v ++ .mark ',' :: itemTokens true (w :: ws) := by simp [itemTokens]

/-- Items are read one after another, up to the closing bracket. -/
theorem items?_itemTokens {v : Value} {vs : List Value} (h : ∀ w ∈ v :: vs, ReadAs (tokensOf w) w) {n : Nat}
    (hn : 2 * (itemTokens true (v :: vs)).length + 1 ≤ n) (rest : List Token) :
    items? n (itemTokens true (v :: vs) ++ .mark ']' :: rest) = some (v :: vs, rest) := by
  induction vs generalizing v n with
  | nil =>
    obtain ⟨n, rfl⟩ := Nat.exists_eq_add_of_le' (Nat.le_of_add_left_le hn)
    rw [itemTokens_singleton] at hn ⊢
    simp only [items?, h v List.mem_cons_self n (.mark ']' :: rest) (by omega)]
  | cons w ws ih =>
    obtain ⟨n, rfl⟩ := Nat.exists_eq_add_of_le' (Nat.le_of_add_left_le hn)
    rw [itemTokens_cons_cons, List.length_append, List.length_cons] at hn
    have hv := h v List.mem_cons_self n (.mark ',' :: (itemTokens true (w :: ws) ++ .mark ']' :: rest)) (by omega)
    have hws := ih (fun u hu => h u (List.mem_cons_of_mem v hu)) (n := n) (by omega)
    rw [itemTokens_cons_cons, List.append_assoc, List.cons_append]
    simp only [items?, hv, hws, Option.map_some]

theorem fieldTokens_singleton (k : String) (v : Value) :
    fieldTokens true [(k, v)] = .string (some k) :: .mark ':' :: tokensOf v := by simp [fieldTokens]

theorem fieldTokens_cons_cons (k : String) (v : Value) (g : String × Value) (gs : List (String × Value)) :
    fieldTokens true ((k, v) :: g :: gs) =
      .string (some k) :: .mark ':' :: (tokensOf v ++ .mark ',' :: fieldTokens true (g :: gs)) := by simp [fieldTokens]

/-- Fields are read one after another, up to the closing brace, and all their keys are texts. -/
theorem fields?_fieldTokens {f : String × Value} {fs : List (String × Value)}
    (h : ∀ g ∈ f :: fs, ReadAs (tokensOf g.2) g.2) {n : Nat}
    (hn : 2 * (fieldTokens true (f :: fs)).length ≤ n) (rest : List Token) :
    fields? n (fieldTokens true (f :: fs) ++ .mark '\x7d' :: rest) =
      some ((f :: fs).map fun g => (some g.1, g.2), rest) := by
  induction fs generalizing f n with
  | nil =>
    obtain ⟨k, v⟩ := f
    rw [fieldTokens_singleton] at hn ⊢
    simp only [List.length_cons] at hn
    obtain ⟨n, rfl⟩ := Nat.exists_eq_add_of_le' (show 1 ≤ n by omega)
    have hv := h (k, v) List.mem_cons_self n (.mark '\x7d' :: rest) (by simp only; omega)
    simp only [List.cons_append, fields?, hv, List.map_cons, List.map_nil]
  | cons g gs ih =>
    obtain ⟨k, v⟩ := f
    rw [fieldTokens_cons_cons] at hn ⊢
    simp only [List.length_cons, List.length_append] at hn
    obtain ⟨n, rfl⟩ := Nat.exists_eq_add_of_le' (show 1 ≤ n by omega)
    have hv := h (k, v) List.mem_cons_self n (.mark ',' :: (fieldTokens true (g :: gs) ++ .mark '\x7d' :: rest))
      (by simp only; omega)
    have hgs := ih (fun u hu => h u (List.mem_cons_of_mem _ hu)) (n := n) (by omega)
    simp only [List.cons_append, List.append_assoc, fields?, hv, hgs, Option.map_some, List.map_cons]

theorem objectOf_texts (fields : List (String × Value)) :
    objectOf (fields.map fun f => (some f.1, f.2)) = .object fields := by
  simp [objectOf, Function.comp_def]

/-- No value starts with a closing bracket, so that a list with items is not taken for an empty one. -/
theorem tokensOf_append_ne_close (v : Value) (rest ts : List Token) : tokensOf v ++ rest ≠ .mark ']' :: ts := by
  cases v <;> simp [tokensOf]

/-- The tokens of a value are read as the value. -/
theorem value?_tokensOf {v : Value} (h : v.Textual) : ReadAs (tokensOf v) v := by
  induction h with
  | null | bool | string =>
    intro n rest hn
    simp only [tokensOf, List.length_singleton] at hn
    obtain ⟨n, rfl⟩ := Nat.exists_eq_add_of_le' (show 1 ≤ n by omega)
    rfl
  | @array items _ ih =>
    intro n rest hn
    simp only [tokensOf, List.length_cons, List.length_append, List.length_nil] at hn
    obtain ⟨n, rfl⟩ := Nat.exists_eq_add_of_le' (show 1 ≤ n by omega)
    cases items with
    | nil => rfl
    | cons v vs =>
      have hitems := items?_itemTokens ih (n := n) (by omega) rest
      have hstart : ∀ ts, itemTokens true (v :: vs) ++ .mark ']' :: rest ≠ .mark ']' :: ts := by
        intro ts
        rw [itemTokens, if_pos rfl, List.nil_append, List.append_assoc]
        exact tokensOf_append_ne_close v _ ts
      simp only [tokensOf, List.cons_append, List.append_assoc, List.nil_append]
      rw [value?]
      · simp only [hitems, Option.map_some]
      · exact hstart
  | @object fields _ ih =>
    intro n rest hn
    simp only [tokensOf, List.length_cons, List.length_append, List.length_nil] at hn
    obtain ⟨n, rfl⟩ := Nat.exists_eq_add_of_le' (show 1 ≤ n by omega)
    cases fields with
    | nil => rfl
    | cons f fs =>
      have hfields := fields?_fieldTokens ih (n := n) (by omega) rest
      have hstart : ∀ ts, fieldTokens true (f :: fs) ++ .mark '\x7d' :: rest ≠ .mark '\x7d' :: ts := by
        simp [fieldTokens]
      simp only [tokensOf, List.cons_append, List.append_assoc, List.nil_append]
      rw [value?]
      · simp only [hfields, Option.map_some, objectOf_texts]
      · exact hstart

theorem parse?_of_scans {text : String} {v : Value} (hs : Scans text.toList (tokensOf v)) (h : v.Textual) :
    parse? text = some v := by
  have ht : tokens? text.length text.toList = some (tokensOf v) := hs.tokens?_eq
  have hv := value?_tokensOf h (2 * (tokensOf v).length + 1) [] (by omega)
  rw [List.append_nil] at hv
  simp only [parse?, ht, hv]

/-- The text of a value on one line is read as the value. -/
theorem parse?_compact {v : Value} (h : v.Textual) : parse? v.compact = some v := by
  refine parse?_of_scans ?_ h
  rw [Value.compact, String.toList_ofList]
  exact writeCompact_scans h

/-- The text of a value on indented lines is read as the value. -/
theorem parse?_pretty {v : Value} (h : v.Textual) : parse? v.pretty = some v := by
  refine parse?_of_scans ?_ h
  rw [Value.pretty, String.toList_ofList]
  exact writePretty_scans h 0

/-! ## Lists -/

/-- What is written item by item is read item by item. -/
theorem mapM_map_eq_some {α β : Type} {write : α → β} {read : β → Option α} {items : List α}
    (h : ∀ a ∈ items, read (write a) = some a) : (items.map write).mapM read = some items := by
  induction items with
  | nil => rfl
  | cons a as ih =>
    have ha := h a List.mem_cons_self
    have has := ih fun b hb => h b (List.mem_cons_of_mem a hb)
    rw [List.map_cons, List.mapM_cons, ha, has]
    rfl

end ConfigCoverage.Json
