import ConfigCoverage.Text.Encoding

/-!
# Encodings of sources

A source may be written in UTF-8 or UTF-16, with a mark in front or, in UTF-8, without, and with either kind of line end:
the text that is read is the same.

* `Encoding.encode`: the bytes of a text.
* `Encoding.decode?_eq_some_iff`: bytes are decoded to the text whose bytes they are, and to no other.
* `LineEndsUnified`: what becomes of line ends, by the lines of a text.
* `decodeSource_encode`: what is read from each encoding of a text, and from which bytes nothing is read.
-/

namespace ConfigCoverage

namespace Encoding

/-! ## Writing -/

/-- The units of a character: one, or the two halves of a pair. -/
def unitsOf (c : Char) : List Nat :=
  if c.toNat < 0x10000 then [c.toNat]
  else [0xD800 + (c.toNat - 0x10000) / 0x400, 0xDC00 + (c.toNat - 0x10000) % 0x400]

/-- The two bytes of a unit. -/
def bytesOf (order : ByteOrder) (unit : Nat) : List UInt8 :=
  match order with
  | .little => [UInt8.ofNat unit, UInt8.ofNat (unit / 256)]
  | .big => [UInt8.ofNat (unit / 256), UInt8.ofNat unit]

/-- The bytes of a text, without a mark. -/
def encode (e : Encoding) (text : List Char) : List UInt8 :=
  match e with
  | utf8 => text.flatMap String.utf8EncodeChar
  | utf16 order => (text.flatMap unitsOf).flatMap (bytesOf order)

theorem encode_append (e : Encoding) (s t : List Char) : e.encode (s ++ t) = e.encode s ++ e.encode t := by
  cases e <;> simp [encode]

/-- The mark is a character as any other. -/
theorem encode_mark (e : Encoding) : e.encode ['\uFEFF'] = e.mark := by
  cases e with
  | utf8 => decide
  | utf16 order => cases order <;> decide

/-! ## Units -/

theorem unitOf_bytesOf {unit : Nat} (h : unit < 0x10000) (order : ByteOrder) :
    ∃ a b, bytesOf order unit = [a, b] ∧ unitOf order a b = unit := by
  cases order with
  | little | big =>
    refine ⟨_, _, rfl, ?_⟩
    simp only [unitOf, UInt8.toNat_ofNat']
    omega

theorem bytesOf_unitOf (order : ByteOrder) (a b : UInt8) : bytesOf order (unitOf order a b) = [a, b] := by
  have hbytes : ∀ high low : UInt8, UInt8.ofNat ((high.toNat * 256 + low.toNat) / 256) = high ∧
      UInt8.ofNat (high.toNat * 256 + low.toNat) = low := by
    intro high low
    have hhigh := high.toNat_lt
    have hlow := low.toNat_lt
    constructor
    · apply UInt8.toNat_inj.1
      rw [UInt8.toNat_ofNat']
      omega
    · apply UInt8.toNat_inj.1
      rw [UInt8.toNat_ofNat']
      omega
  cases order with
  | little => rw [bytesOf, unitOf, (hbytes b a).1, (hbytes b a).2]
  | big => rw [bytesOf, unitOf, (hbytes a b).1, (hbytes a b).2]

theorem unitOf_lt (order : ByteOrder) (a b : UInt8) : unitOf order a b < 0x10000 := by
  have ha := a.toNat_lt
  have hb := b.toNat_lt
  cases order <;> simp only [unitOf] <;> omega

theorem units?_flatMap_bytesOf (order : ByteOrder) {units : List Nat} (h : ∀ u ∈ units, u < 0x10000) :
    units? order (units.flatMap (bytesOf order)) = some units := by
  induction units with
  | nil => rfl
  | cons u units ih =>
    obtain ⟨hu, hunits⟩ := List.forall_mem_cons.1 h
    obtain ⟨a, b, hbytes, hunit⟩ := unitOf_bytesOf hu order
    rw [List.flatMap_cons, hbytes, List.cons_append, List.singleton_append, units?, ih hunits, hunit]
    rfl

theorem eq_of_units? {order : ByteOrder} {bytes : List UInt8} {units : List Nat} (h : units? order bytes = some units) :
    bytes = units.flatMap (bytesOf order) ∧ ∀ u ∈ units, u < 0x10000 := by
  fun_induction units? order bytes generalizing units with
  | case1 =>
    cases h
    exact ⟨rfl, nofun⟩
  | case2 => cases h
  | case3 a b rest ih =>
    obtain ⟨rest', hrest, rfl⟩ := Option.map_eq_some_iff.1 h
    obtain ⟨hbytes, hlt⟩ := ih hrest
    refine ⟨?_, List.forall_mem_cons.2 ⟨unitOf_lt order a b, hlt⟩⟩
    rw [List.flatMap_cons, bytesOf_unitOf, ← hbytes]
    rfl

/-! ## Characters -/

theorem toNat_ofNat {n : Nat} (h : n.isValidChar) : (Char.ofNat n).toNat = n := by
  rw [Char.ofNat, dif_pos h]
  rfl

/-- A character is no half of a pair. -/
theorem toNat_lt_or (c : Char) : c.toNat < 0xD800 ∨ (0xDFFF < c.toNat ∧ c.toNat < 0x110000) := c.valid

theorem not_isSurrogate_toNat (c : Char) : isHighSurrogate c.toNat = false ∧ isLowSurrogate c.toNat = false := by
  have hc := toNat_lt_or c
  simp only [isHighSurrogate, isLowSurrogate, Bool.and_eq_false_iff, decide_eq_false_iff_not]
  omega

/-- A character that takes two units takes the halves of its pair. -/
theorem unitsOf_pair {c : Char} (h : ¬ c.toNat < 0x10000) :
    ∃ high low, unitsOf c = [high, low] ∧ isHighSurrogate high = true ∧ isLowSurrogate low = true ∧
      pairChar high low = c := by
  have hc := toNat_lt_or c
  refine ⟨_, _, if_neg h, ?_, ?_, ?_⟩
  · simp only [isHighSurrogate, Bool.and_eq_true, decide_eq_true_eq]
    omega
  · simp only [isLowSurrogate, Bool.and_eq_true, decide_eq_true_eq]
    omega
  · have hpoint : 0x10000 + (0xD800 + (c.toNat - 0x10000) / 0x400 - 0xD800) * 0x400 +
        (0xDC00 + (c.toNat - 0x10000) % 0x400 - 0xDC00) = c.toNat := by omega
    rw [pairChar, hpoint, Char.ofNat_toNat]

theorem unitsOf_pairChar {high low : Nat} (hhigh : isHighSurrogate high = true) (hlow : isLowSurrogate low = true) :
    unitsOf (pairChar high low) = [high, low] := by
  simp only [isHighSurrogate, isLowSurrogate, Bool.and_eq_true, decide_eq_true_eq] at hhigh hlow
  have hpoint : (pairChar high low).toNat = 0x10000 + (high - 0xD800) * 0x400 + (low - 0xDC00) :=
    toNat_ofNat (.inr (by omega))
  have hunits : 0xD800 + (0x10000 + (high - 0xD800) * 0x400 + (low - 0xDC00) - 0x10000) / 0x400 = high ∧
      0xDC00 + (0x10000 + (high - 0xD800) * 0x400 + (low - 0xDC00) - 0x10000) % 0x400 = low := by omega
  rw [unitsOf, hpoint, if_neg (by omega), hunits.1, hunits.2]

theorem unitsOf_ofNat {unit : Nat} (hlt : unit < 0x10000) (hhigh : isHighSurrogate unit = false)
    (hlow : isLowSurrogate unit = false) : unitsOf (Char.ofNat unit) = [unit] := by
  simp only [isHighSurrogate, isLowSurrogate, Bool.and_eq_false_iff, decide_eq_false_iff_not] at hhigh hlow
  have hvalid : unit.isValidChar := by
    rw [Nat.isValidChar]
    omega
  rw [unitsOf, toNat_ofNat hvalid, if_pos hlt]

theorem unitsOf_lt {c : Char} {u : Nat} (h : u ∈ unitsOf c) : u < 0x10000 := by
  have hc := toNat_lt_or c
  unfold unitsOf at h
  split at h
  · next hlt =>
    rw [List.mem_singleton] at h
    omega
  · simp only [List.mem_cons, List.not_mem_nil, or_false] at h
    omega

/-- A unit that is no half of a pair is a character. -/
theorem chars?_cons {unit : Nat} (hhigh : isHighSurrogate unit = false) (hlow : isLowSurrogate unit = false)
    (units : List Nat) : chars? (unit :: units) = (chars? units).map (Char.ofNat unit :: ·) := by
  cases units with
  | nil => simp [chars?, hhigh, hlow]
  | cons next rest => simp [chars?, hhigh, hlow]

theorem chars?_flatMap_unitsOf (cs : List Char) : chars? (cs.flatMap unitsOf) = some cs := by
  induction cs with
  | nil => rfl
  | cons c cs ih =>
    rw [List.flatMap_cons]
    by_cases hc : c.toNat < 0x10000
    · obtain ⟨hhigh, hlow⟩ := not_isSurrogate_toNat c
      rw [unitsOf, if_pos hc, List.singleton_append, chars?_cons hhigh hlow, ih, Char.ofNat_toNat]
      rfl
    · obtain ⟨high, low, hunits, hhigh, hlow, hpair⟩ := unitsOf_pair hc
      rw [hunits, List.cons_append, List.singleton_append, chars?, if_pos hhigh, if_pos hlow, ih, hpair]
      rfl

theorem eq_of_chars? {units : List Nat} {cs : List Char} (hlt : ∀ u ∈ units, u < 0x10000)
    (h : chars? units = some cs) : units = cs.flatMap unitsOf := by
  fun_induction chars? units generalizing cs with
  | case1 =>
    cases h
    rfl
  | case2 => cases h
  | case3 unit hunit =>
    cases h
    rw [Bool.or_eq_true, not_or, Bool.not_eq_true, Bool.not_eq_true] at hunit
    rw [List.flatMap_singleton, unitsOf_ofNat (hlt unit List.mem_cons_self) hunit.1 hunit.2]
  | case4 unit next rest hhigh hlow ih =>
    obtain ⟨cs', hcs', rfl⟩ := Option.map_eq_some_iff.1 h
    rw [List.forall_mem_cons, List.forall_mem_cons] at hlt
    rw [List.flatMap_cons, unitsOf_pairChar hhigh hlow, ← ih hlt.2.2 hcs']
    rfl
  | case5 => cases h
  | case6 => cases h
  | case7 unit next rest hhigh hlow ih =>
    obtain ⟨cs', hcs', rfl⟩ := Option.map_eq_some_iff.1 h
    rw [List.forall_mem_cons] at hlt
    rw [Bool.not_eq_true] at hhigh hlow
    rw [List.flatMap_cons, unitsOf_ofNat hlt.1 hhigh hlow, ← ih hlt.2 hcs']
    rfl

/-! ## Reading back -/

theorem fromUTF8?_eq_some_iff {bytes : ByteArray} {text : String} :
    String.fromUTF8? bytes = some text ↔ bytes = text.toByteArray := by
  unfold String.fromUTF8?
  constructor
  · intro h
    split at h
    · cases h
      rfl
    · cases h
  · rintro rfl
    rw [dif_pos text.isValidUTF8]
    rfl

theorem eq_toByteArray_iff {bytes : List UInt8} {text : String} :
    (⟨bytes.toArray⟩ : ByteArray) = text.toByteArray ↔ bytes = text.toList.flatMap String.utf8EncodeChar := by
  have htext : text.toByteArray = (text.toList.flatMap String.utf8EncodeChar).toByteArray := by
    rw [← List.utf8Encode, ← String.toByteArray_ofList, String.ofList_toList]
  rw [htext]
  constructor
  · intro h
    simpa using congrArg (fun b => b.data.toList) h
  · rintro rfl
    exact ByteArray.ext List.data_toByteArray.symm

/-- Bytes are decoded to the text whose bytes they are, and to no other. -/
theorem decode?_eq_some_iff {e : Encoding} {bytes : List UInt8} {text : List Char} :
    e.decode? bytes = some (String.ofList text) ↔ bytes = e.encode text := by
  cases e with
  | utf8 => rw [decode?, fromUTF8?_eq_some_iff, eq_toByteArray_iff, String.toList_ofList, encode]
  | utf16 order =>
    rw [decode?, encode]
    constructor
    · intro h
      obtain ⟨cs, hcs, htext⟩ := Option.map_eq_some_iff.1 h
      obtain ⟨units, hunits, hcs⟩ := Option.bind_eq_some_iff.1 hcs
      obtain ⟨hbytes, hlt⟩ := eq_of_units? hunits
      rw [← String.ofList_inj.1 htext, ← eq_of_chars? hlt hcs, ← hbytes]
    · intro h
      have hlt : ∀ u ∈ text.flatMap unitsOf, u < 0x10000 := fun u hu => by
        obtain ⟨c, -, hu⟩ := List.mem_flatMap.1 hu
        exact unitsOf_lt hu
      rw [h, units?_flatMap_bytesOf order hlt, Option.bind_some, chars?_flatMap_unitsOf, Option.map_some]

/-! ## Marks -/

theorem ofBytes_mark_append (e : Encoding) (rest : List UInt8) : ofBytes (e.mark ++ rest) = e := by
  cases e with
  | utf8 => simp [ofBytes, mark]
  | utf16 order => cases order <;> simp [ofBytes, mark]

theorem withoutMark_mark_append (e : Encoding) (rest : List UInt8) : e.withoutMark (e.mark ++ rest) = rest := by
  rw [withoutMark, if_pos (List.isPrefixOf_iff_prefix.2 (List.prefix_append _ _)), List.drop_left]

theorem withoutMark_cases (e : Encoding) (bytes : List UInt8) :
    e.withoutMark bytes = bytes ∨ bytes = e.mark ++ e.withoutMark bytes := by
  by_cases h : e.mark <+: bytes
  · obtain ⟨rest, rfl⟩ := h
    exact .inr (by rw [withoutMark_mark_append])
  · exact .inl (if_neg fun hmark => h (List.isPrefixOf_iff_prefix.1 hmark))

/-- Bytes that begin with the mark are those of a text that begins with the mark. -/
theorem exists_of_mark_append {e : Encoding} {rest : List UInt8} {text : List Char}
    (h : e.mark ++ rest = e.encode text) : ∃ text', text = '\uFEFF' :: text' ∧ rest = e.encode text' := by
  cases e with
  | utf8 =>
    have hmark : ['\uFEFF'].utf8Encode ++ rest.toByteArray = text.utf8Encode := by
      have hbytes := congrArg List.toByteArray h
      rw [List.toByteArray_append, ← encode_mark] at hbytes
      exact hbytes
    obtain ⟨text', rfl⟩ := List.isPrefix_of_utf8Encode_append_eq_utf8Encode _ hmark
    rw [encode_append, encode_mark] at h
    exact ⟨text', rfl, List.append_cancel_left h⟩
  | utf16 order =>
    have hunit : ∃ a b, (utf16 order).mark = [a, b] ∧ unitOf order a b = 0xFEFF := by
      cases order <;> exact ⟨_, _, rfl, by decide⟩
    obtain ⟨a, b, hmark, hunit⟩ := hunit
    have hdecode := decode?_eq_some_iff.2 h
    rw [decode?, hmark, List.cons_append, List.singleton_append, units?, hunit] at hdecode
    obtain ⟨cs, hcs, htext⟩ := Option.map_eq_some_iff.1 hdecode
    obtain ⟨units, hunits, hcs⟩ := Option.bind_eq_some_iff.1 hcs
    obtain ⟨rest', hrest, rfl⟩ := Option.map_eq_some_iff.1 hunits
    -- the unit of the mark is no half of a pair, so it is a character by itself
    rw [chars?_cons rfl rfl] at hcs
    obtain ⟨text', htext', rfl⟩ := Option.map_eq_some_iff.1 hcs
    refine ⟨text', (String.ofList_inj.1 htext).symm, decode?_eq_some_iff.1 ?_⟩
    rw [decode?, hrest, Option.bind_some, htext', Option.map_some]

/-- No text in UTF-8 begins with the mark of another encoding. -/
theorem ofBytes_encode_utf8 (text : List Char) : ofBytes (utf8.encode text) = utf8 := by
  cases text with
  | nil => rfl
  | cons c text =>
    obtain ⟨first, rest, hc⟩ : ∃ first rest, String.utf8EncodeChar c = first :: rest :=
      List.exists_cons_of_length_pos (by rw [String.length_utf8EncodeChar]; exact c.utf8Size_pos)
    have hfirst : first.IsUTF8FirstByte := by
      have h := UInt8.isUTF8FirstByte_getElem_zero_utf8EncodeChar (c := c)
      simpa [hc] using h
    -- the marks of UTF-16 begin with bytes that begin no character
    have hne : first ≠ 0xFF ∧ first ≠ 0xFE := by
      constructor <;> rintro rfl <;> revert hfirst <;> decide
    rw [encode, List.flatMap_cons, hc]
    simp [ofBytes, mark, Ne.symm hne.1, Ne.symm hne.2]

theorem withoutMark_encode {e : Encoding} {text : List Char} (h : text.head? ≠ some '\uFEFF') :
    e.withoutMark (e.encode text) = e.encode text := by
  rcases e.withoutMark_cases (e.encode text) with hsame | hmark
  · exact hsame
  · obtain ⟨text', rfl, -⟩ := exists_of_mark_append hmark.symm
    exact absurd rfl h

/-- Bytes are those of a text whether or not a mark is taken off first. -/
theorem exists_withoutMark_eq_iff {e : Encoding} {bytes : List UInt8} :
    (∃ text, e.withoutMark bytes = e.encode text) ↔ ∃ text, bytes = e.encode text := by
  rcases e.withoutMark_cases bytes with hsame | hmark
  · rw [hsame]
  · constructor
    · rintro ⟨text, htext⟩
      refine ⟨'\uFEFF' :: text, ?_⟩
      rw [← List.singleton_append, encode_append, encode_mark, ← htext]
      exact hmark
    · rintro ⟨text, htext⟩
      obtain ⟨text', -, hrest⟩ := exists_of_mark_append (hmark.symm.trans htext)
      exact ⟨text', hrest⟩

end Encoding

/-! ## Line ends -/

/-- `u` is `t` with each pair of a carriage return and a line feed written as a line feed: `t` is cut at its pairs, and
the lines are put together again. -/
def LineEndsUnified (t u : List Char) : Prop :=
  ∃ lines : List (List Char), (∀ line ∈ lines, ¬ ['\r', '\n'] <:+: line) ∧
    t = ['\r', '\n'].intercalate lines ∧ u = ['\n'].intercalate lines

/-- Each line feed written with a carriage return before it. -/
def withReturns (t : List Char) : List Char := t.flatMap fun c => if c = '\n' then ['\r', '\n'] else [c]

/-- A character that does not begin a pair is kept. -/
theorem unifyLineEnds_cons {c : Char} {cs : List Char} (h : ¬ ['\r', '\n'] <+: c :: cs) :
    unifyLineEnds (c :: cs) = c :: unifyLineEnds cs := by
  refine unifyLineEnds.eq_2 c cs fun rest hc hcs => h ?_
  rw [hc, hcs]
  exact ⟨rest, rfl⟩

theorem unifyLineEnds_line {line : List Char} (h : ¬ ['\r', '\n'] <:+: line) : unifyLineEnds line = line := by
  induction line with
  | nil => rfl
  | cons c cs ih =>
    rw [unifyLineEnds_cons fun hpair => h hpair.isInfix, ih fun hpair => h (hpair.trans (List.suffix_cons c cs).isInfix)]

/-- Up to the first pair a text is kept. A carriage return at the end of the line makes no pair with that of the pair. -/
theorem unifyLineEnds_append {line : List Char} (h : ¬ ['\r', '\n'] <:+: line) (rest : List Char) :
    unifyLineEnds (line ++ ('\r' :: '\n' :: rest)) = line ++ '\n' :: unifyLineEnds rest := by
  induction line with
  | nil => rfl
  | cons c cs ih =>
    have hpair : ¬ ['\r', '\n'] <+: c :: (cs ++ '\r' :: '\n' :: rest) := by
      intro hp
      cases cs with
      | nil => simp at hp
      | cons d cs =>
        refine h (List.IsPrefix.isInfix ?_)
        simpa using hp
    rw [List.cons_append, unifyLineEnds_cons hpair, ih fun hp => h (hp.trans (List.suffix_cons c cs).isInfix)]
    rfl

theorem LineEndsUnified.eq {t u : List Char} (h : LineEndsUnified t u) : unifyLineEnds t = u := by
  obtain ⟨lines, hlines, rfl, rfl⟩ := h
  induction lines with
  | nil => rfl
  | cons line lines ih =>
    obtain ⟨hline, hlines⟩ := List.forall_mem_cons.1 hlines
    cases lines with
    | nil => rw [List.intercalate_singleton, List.intercalate_singleton, unifyLineEnds_line hline]
    | cons next lines =>
      rw [List.intercalate_cons_cons, List.intercalate_cons_cons, List.append_assoc, List.append_assoc, ← ih hlines]
      exact unifyLineEnds_append hline _

/-- Every text has lines. The induction is that of the function itself: it comes to a pair, which ends a line, or to a
character of the line that it is in. -/
theorem exists_lines (t : List Char) : ∃ (line : List Char) (lines : List (List Char)),
    (∀ l ∈ line :: lines, ¬ ['\r', '\n'] <:+: l) ∧ t = ['\r', '\n'].intercalate (line :: lines) := by
  fun_induction unifyLineEnds t with
  | case1 rest ih =>
    obtain ⟨line, lines, hlines, rfl⟩ := ih
    refine ⟨[], line :: lines, List.forall_mem_cons.2 ⟨by simp, hlines⟩, ?_⟩
    rw [List.intercalate_cons_cons]
    rfl
  | case2 c rest hpair ih =>
    obtain ⟨line, lines, hlines, hrest⟩ := ih
    obtain ⟨hline, hlines⟩ := List.forall_mem_cons.1 hlines
    have hfront : ∃ tail, rest = line ++ tail := by
      cases lines with
      | nil => exact ⟨[], by rw [hrest, List.intercalate_singleton, List.append_nil]⟩
      | cons next lines => exact ⟨_, by rw [hrest, List.intercalate_cons_cons, List.append_assoc]⟩
    refine ⟨c :: line, lines, List.forall_mem_cons.2 ⟨fun hinfix => ?_, hlines⟩, ?_⟩
    · rcases List.infix_cons_iff.1 hinfix with hp | hp
      · obtain ⟨tail, hp⟩ := hp
        obtain ⟨tail', htail'⟩ := hfront
        cases hp
        exact hpair _ rfl htail'
      · exact hline hp
    · rw [hrest]
      cases lines with
      | nil => rw [List.intercalate_singleton, List.intercalate_singleton]
      | cons next lines => rw [List.intercalate_cons_cons, List.intercalate_cons_cons]; rfl
  | case3 => exact ⟨[], [], by simp, rfl⟩

theorem lineEndsUnified_unifyLineEnds (t : List Char) : LineEndsUnified t (unifyLineEnds t) := by
  obtain ⟨line, lines, hlines, ht⟩ := exists_lines t
  have h : LineEndsUnified t (['\n'].intercalate (line :: lines)) := ⟨line :: lines, hlines, ht, rfl⟩
  rwa [← h.eq] at h

theorem unifyLineEnds_withReturns {t : List Char} (h : '\r' ∉ t) : unifyLineEnds (withReturns t) = t := by
  induction t with
  | nil => rfl
  | cons c cs ih =>
    rw [List.mem_cons, not_or] at h
    obtain ⟨hc, hcs⟩ := h
    rw [withReturns, List.flatMap_cons]
    split
    · next heq =>
      rw [heq]
      exact congrArg ('\n' :: ·) (ih hcs)
    · rw [List.singleton_append, unifyLineEnds_cons fun hp => hc (List.cons_prefix_cons.1 hp).1]
      exact congrArg (c :: ·) (ih hcs)

/-! ## Sources -/

theorem decodeSource_eq_ok_iff {bytes : List UInt8} {u : String} :
    decodeSource bytes = .ok u ↔
      ∃ t, (Encoding.ofBytes bytes).withoutMark bytes = (Encoding.ofBytes bytes).encode t ∧
        u = String.ofList (unifyLineEnds t) := by
  simp only [← Encoding.decode?_eq_some_iff]
  cases h : (Encoding.ofBytes bytes).decode? ((Encoding.ofBytes bytes).withoutMark bytes) with
  | none => simp [decodeSource, h]
  | some text =>
    simp only [decodeSource, h, Except.ok.injEq, Option.some.injEq]
    constructor
    · intro hu
      exact ⟨text.toList, String.ofList_toList.symm, hu.symm⟩
    · rintro ⟨t, rfl, rfl⟩
      rw [String.toList_ofList]

theorem decodeSource_eq_error_iff {bytes : List UInt8} {e : Encoding} :
    decodeSource bytes = .error e ↔ e = Encoding.ofBytes bytes ∧ ¬ ∃ t, bytes = e.encode t := by
  have hvalid : (∃ t, bytes = (Encoding.ofBytes bytes).encode t) ↔
      ((Encoding.ofBytes bytes).decode? ((Encoding.ofBytes bytes).withoutMark bytes)).isSome = true := by
    rw [← Encoding.exists_withoutMark_eq_iff, Option.isSome_iff_exists]
    simp only [← Encoding.decode?_eq_some_iff]
    exact ⟨fun ⟨t, ht⟩ => ⟨_, ht⟩, fun ⟨text, htext⟩ => ⟨text.toList, by rwa [String.ofList_toList]⟩⟩
  cases h : (Encoding.ofBytes bytes).decode? ((Encoding.ofBytes bytes).withoutMark bytes) with
  | none =>
    rw [h] at hvalid
    simp only [decodeSource, h, Except.error.injEq]
    constructor
    · rintro rfl
      exact ⟨rfl, fun ht => nomatch hvalid.1 ht⟩
    · rintro ⟨rfl, -⟩
      rfl
  | some text =>
    rw [h] at hvalid
    simp only [decodeSource, h, reduceCtorEq, false_iff]
    rintro ⟨rfl, hinvalid⟩
    exact hinvalid (hvalid.2 rfl)

theorem decodeSource_mark_append (e : Encoding) (t : List Char) :
    decodeSource (e.mark ++ e.encode t) = .ok (String.ofList (unifyLineEnds t)) := by
  rw [decodeSource_eq_ok_iff, Encoding.ofBytes_mark_append, Encoding.withoutMark_mark_append]
  exact ⟨t, rfl, rfl⟩

theorem decodeSource_encode_utf8 {t : List Char} (h : t.head? ≠ some '\uFEFF') :
    decodeSource (Encoding.utf8.encode t) = .ok (String.ofList (unifyLineEnds t)) := by
  rw [decodeSource_eq_ok_iff, Encoding.ofBytes_encode_utf8, Encoding.withoutMark_encode h]
  exact ⟨t, rfl, rfl⟩

theorem head?_withReturns {t : List Char} (h : t.head? ≠ some '\uFEFF') : (withReturns t).head? ≠ some '\uFEFF' := by
  cases t with
  | nil => exact h
  | cons c cs =>
    rw [withReturns, List.flatMap_cons]
    split
    · simp
    · exact h

/-- **The encoding of a source and its line ends do not matter.** With its mark in front, a text is read from its bytes
in each encoding with all line ends unified, and in UTF-8 without a mark also, unless the text itself begins with one.
A text without carriage returns comes back whole if they are put before its line feeds. Bytes are refused iff they are
those of no text in the encoding that their beginning tells; else what is read from them is the text they encode. -/
theorem decodeSource_encode :
    (∀ t : List Char, ∃ u, LineEndsUnified t u) ∧
    (∀ t u : List Char, LineEndsUnified t u →
      (∀ e : Encoding, decodeSource (e.mark ++ e.encode t) = .ok (String.ofList u)) ∧
      (t.head? ≠ some '\uFEFF' → decodeSource (Encoding.utf8.encode t) = .ok (String.ofList u))) ∧
    (∀ t : List Char, '\r' ∉ t →
      (∀ e : Encoding, decodeSource (e.mark ++ e.encode (withReturns t)) = .ok (String.ofList t)) ∧
      (t.head? ≠ some '\uFEFF' →
        decodeSource (Encoding.utf8.encode (withReturns t)) = .ok (String.ofList t))) ∧
    ∀ bytes : List UInt8,
      (∀ e : Encoding, decodeSource bytes = .error e ↔ e = .ofBytes bytes ∧ ¬ ∃ t, bytes = e.encode t) ∧
      ∀ u : String, decodeSource bytes = .ok u → ∃ t, LineEndsUnified t u.toList ∧
        (bytes = (Encoding.ofBytes bytes).encode t ∨
          bytes = (Encoding.ofBytes bytes).mark ++ (Encoding.ofBytes bytes).encode t) := by
  refine ⟨fun t => ⟨_, lineEndsUnified_unifyLineEnds t⟩, ?_, ?_, fun bytes => ⟨fun e => decodeSource_eq_error_iff, ?_⟩⟩
  · rintro t u hu
    rw [← hu.eq]
    exact ⟨fun e => decodeSource_mark_append e t, decodeSource_encode_utf8⟩
  · intro t ht
    have hreturns := unifyLineEnds_withReturns ht
    refine ⟨fun e => ?_, fun hmark => ?_⟩
    · rw [decodeSource_mark_append, hreturns]
    · rw [decodeSource_encode_utf8 (head?_withReturns hmark), hreturns]
  · intro u hu
    obtain ⟨t, ht, rfl⟩ := decodeSource_eq_ok_iff.1 hu
    refine ⟨t, by rw [String.toList_ofList]; exact lineEndsUnified_unifyLineEnds t, ?_⟩
    rcases (Encoding.ofBytes bytes).withoutMark_cases bytes with hsame | hmark
    · exact .inl (hsame.symm.trans ht)
    · exact .inr (ht ▸ hmark)

/-- A text that begins with a mark, with a character of two units and a carriage return before a pair. -/
def markedText : List Char := ['\uFEFF', '𝄞', '\r', '\r', '\n']

theorem lineEndsUnified_markedText : LineEndsUnified markedText ['\uFEFF', '𝄞', '\r', '\n'] :=
  lineEndsUnified_unifyLineEnds markedText

/-- One mark is taken off and the other kept; a lone half of a pair is refused. -/
theorem decodeSource_encode_markedText :
    decodeSource [0xFF, 0xFE, 0xFF, 0xFE, 0x34, 0xD8, 0x1E, 0xDD, 0x0D, 0x00, 0x0D, 0x00, 0x0A, 0x00] =
        .ok "\uFEFF𝄞\r\n" ∧
      decodeSource [0x78, 0x0D, 0x0A] = .ok "x\n" ∧
      decodeSource [0xFF, 0xFE, 0x34, 0xD8] = .error (.utf16 .little) := by
  obtain ⟨-, hmarked, hreturns, hbytes⟩ := decodeSource_encode
  refine ⟨?_, ?_, ?_⟩
  · exact (hmarked markedText _ lineEndsUnified_markedText).1 (.utf16 .little)
  · exact (hreturns ['x', '\n'] (by decide)).2 (by decide)
  · refine ((hbytes [0xFF, 0xFE, 0x34, 0xD8]).1 (.utf16 .little)).2 ⟨rfl, ?_⟩
    rintro ⟨t, ht⟩
    have hnone : (Encoding.utf16 .little).decode? [0xFF, 0xFE, 0x34, 0xD8] = none := by decide
    rw [Encoding.decode?_eq_some_iff.2 ht] at hnone
    cases hnone

end ConfigCoverage
