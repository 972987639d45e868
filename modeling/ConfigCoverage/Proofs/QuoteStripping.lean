import ConfigCoverage.Spelling

/-!
# Stripping of quotes

The spelling of a string or of a character is what stands between its quotes. The quotes of strings begin with one
another and may overlap in a short text, so that it is the order of their list that decides which pair goes.

* `stripQuote_eq_some_iff`: a quote is cut off iff the text stands between two copies of it.
* `isSome_stripQuote_toList_iff`: it makes no difference if their room is counted in characters or in bytes.
* `ofList_stripQuotes_eq_iff`: the text that is left when the first quote that encloses it goes.
* `spelling_unquoted`: the spelling of strings and characters, and which contents of a string it gives back.
-/

namespace ConfigCoverage

/-! ## One quote -/

section OneQuote

variable {quote cs : List Char}

/-- A text stands between two copies of a quote iff it begins and ends with the quote and has room for both. -/
theorem exists_eq_enclosed_iff :
    (∃ inner, cs = quote ++ inner ++ quote) ↔ 2 * quote.length ≤ cs.length ∧ quote <+: cs ∧ quote <:+ cs := by
  constructor
  · rintro ⟨inner, rfl⟩
    refine ⟨?_, ⟨inner ++ quote, (List.append_assoc ..).symm⟩, ⟨quote ++ inner, rfl⟩⟩
    simp only [List.length_append]
    omega
  · rintro ⟨hlen, ⟨tail, rfl⟩, hend⟩
    -- the end of the text has room for the second copy after the first
    have htail : quote.length ≤ tail.length := by
      rw [List.length_append] at hlen
      omega
    obtain ⟨inner, rfl⟩ := List.suffix_of_suffix_length_le hend (List.suffix_append quote tail) htail
    exact ⟨inner, (List.append_assoc ..).symm⟩

theorem stripQuote_enclosed (quote inner : List Char) : stripQuote quote (quote ++ inner ++ quote) = some inner := by
  rw [stripQuote, if_pos (exists_eq_enclosed_iff.1 ⟨inner, rfl⟩)]
  have hlen : (quote ++ inner ++ quote).length - 2 * quote.length = inner.length := by
    simp only [List.length_append]
    omega
  rw [hlen, List.append_assoc, List.drop_left, List.take_left]

/-- A quote is cut off iff the text stands between two copies of it. -/
theorem stripQuote_eq_some_iff {inner : List Char} :
    stripQuote quote cs = some inner ↔ cs = quote ++ inner ++ quote := by
  constructor
  · intro h
    by_cases hq : ∃ inner, cs = quote ++ inner ++ quote
    · obtain ⟨inner', rfl⟩ := hq
      rw [stripQuote_enclosed] at h
      rw [Option.some.inj h]
    · rw [stripQuote, if_neg fun hc => hq (exists_eq_enclosed_iff.2 hc)] at h
      cases h
  · rintro rfl
    exact stripQuote_enclosed quote inner

end OneQuote

/-! ## The first of several quotes -/

/-- `inner` is left of `text` when a pair of quotes goes: the first of `quotes` between two copies of which the text
stands, if there is one. -/
def Unquoted (quotes : List String) (text inner : String) : Prop :=
  (∃ before quote after, quotes = before ++ quote :: after ∧ text = quote ++ inner ++ quote ∧
    ∀ q ∈ before, ∀ between, text ≠ q ++ between ++ q) ∨
  ((∀ q ∈ quotes, ∀ between, text ≠ q ++ between ++ q) ∧ inner = text)

theorem stripQuote_toList_eq_some_iff {quote text inner : String} :
    stripQuote quote.toList text.toList = some inner.toList ↔ text = quote ++ inner ++ quote := by
  rw [stripQuote_eq_some_iff, ← String.toList_inj, String.toList_append, String.toList_append]

theorem stripQuote_toList_eq_none_iff {quote text : String} :
    stripQuote quote.toList text.toList = none ↔ ∀ between, text ≠ quote ++ between ++ quote := by
  rw [Option.eq_none_iff_forall_ne_some]
  constructor
  · exact fun h between heq => h between.toList (stripQuote_toList_eq_some_iff.2 heq)
  · intro h inner heq
    rw [← String.toList_ofList (l := inner)] at heq
    exact h _ (stripQuote_toList_eq_some_iff.1 heq)

theorem utf8ByteSize_of_toList_eq {text : String} {front back : List Char} (h : text.toList = front ++ back) :
    text.utf8ByteSize = (String.ofList front).utf8ByteSize + (String.ofList back).utf8ByteSize := by
  rw [← String.utf8ByteSize_append, ← String.ofList_append, ← h, String.ofList_toList]

/-- The room for two copies of a quote can be counted in bytes as well as in characters. -/
theorem isSome_stripQuote_toList_iff {quote text : String} :
    (stripQuote quote.toList text.toList).isSome ↔
      2 * quote.utf8ByteSize ≤ text.utf8ByteSize ∧ quote.toList <+: text.toList ∧ quote.toList <:+ text.toList := by
  rw [Option.isSome_iff_exists, exists_congr fun _ => stripQuote_eq_some_iff]
  constructor
  · rintro ⟨inner, htext⟩
    refine ⟨?_, (exists_eq_enclosed_iff.1 ⟨inner, htext⟩).2⟩
    rw [utf8ByteSize_of_toList_eq htext, String.ofList_append, String.utf8ByteSize_append, String.ofList_toList]
    omega
  · rintro ⟨hbytes, hfront, hend⟩
    refine exists_eq_enclosed_iff.2 ⟨Nat.le_of_not_lt fun hshort => ?_, hfront, hend⟩
    -- the copies overlap: what comes after the first is a part of the second, and not all of it
    obtain ⟨tail, htail⟩ := hfront
    have htext := congrArg List.length htail
    rw [List.length_append] at htext
    obtain ⟨lead, hlead⟩ := List.suffix_of_suffix_length_le ⟨quote.toList, htail⟩ hend (by omega)
    have hquote := congrArg List.length hlead
    rw [List.length_append] at hquote
    have hzero : (String.ofList lead).utf8ByteSize = 0 := by
      have hwhole := utf8ByteSize_of_toList_eq htail.symm
      have hcopy := utf8ByteSize_of_toList_eq hlead.symm
      rw [String.ofList_toList] at hwhole
      omega
    have hnil : lead = [] := by simpa using String.utf8ByteSize_eq_zero_iff.1 hzero
    rw [hnil, List.length_nil] at hquote
    omega

/-- What is left of a text is what its first enclosing quote leaves. -/
theorem ofList_stripQuotes_eq_iff {quotes : List String} {text inner : String} :
    String.ofList (stripQuotes (quotes.map String.toList) text.toList) = inner ↔ Unquoted quotes text inner := by
  unfold stripQuotes Unquoted
  rw [List.findSome?_map]
  constructor
  · intro h
    cases hf : quotes.findSome? ((stripQuote · text.toList) ∘ String.toList) with
    | none =>
      rw [hf, Option.getD_none, String.ofList_toList] at h
      exact .inr ⟨fun q hq => stripQuote_toList_eq_none_iff.1 (List.findSome?_eq_none_iff.1 hf q hq), h.symm⟩
    | some left =>
      rw [hf, Option.getD_some] at h
      subst h
      obtain ⟨before, quote, after, hquotes, hquote, hbefore⟩ := List.findSome?_eq_some_iff.1 hf
      refine .inl ⟨before, quote, after, hquotes, stripQuote_toList_eq_some_iff.1 ?_, fun q hq => ?_⟩
      · rw [String.toList_ofList]
        exact hquote
      · exact stripQuote_toList_eq_none_iff.1 (hbefore q hq)
  · rintro (⟨before, quote, after, hquotes, hquote, hbefore⟩ | ⟨hnone, rfl⟩)
    · have hf : quotes.findSome? ((stripQuote · text.toList) ∘ String.toList) = some inner.toList :=
        List.findSome?_eq_some_iff.2 ⟨before, quote, after, hquotes, stripQuote_toList_eq_some_iff.2 hquote,
          fun q hq => stripQuote_toList_eq_none_iff.2 (hbefore q hq)⟩
      rw [hf, Option.getD_some, String.ofList_toList]
    · have hf : quotes.findSome? ((stripQuote · inner.toList) ∘ String.toList) = none :=
        List.findSome?_eq_none_iff.2 fun q hq => stripQuote_toList_eq_none_iff.2 (hnone q hq)
      rw [hf, Option.getD_none, String.ofList_toList]

/-! ## Literals -/

theorem stringQuotes_eq : stringQuotes = ["\"\"\"", "'''", "\"", "'"].map String.toList := by decide

theorem spelling_str_eq_iff {text inner : String} :
    (Expr.literal .str text).spelling = inner ↔ Unquoted ["\"\"\"", "'''", "\"", "'"] text inner := by
  rw [← ofList_stripQuotes_eq_iff, ← stringQuotes_eq, Expr.spelling, literalSpelling]

theorem spelling_char_eq_iff {text inner : String} :
    (Expr.literal .char text).spelling = inner ↔ Unquoted ["'"] text inner := by
  have hquote : [['\'']] = ["'"].map String.toList := by decide
  rw [← ofList_stripQuotes_eq_iff, ← hquote, Expr.spelling, literalSpelling]

/-- Contents between two double quotes on either side lose them: each two make three with the quote of the literal. -/
theorem spelling_string_enclosed (inner : String) :
    (Expr.string ("\"\"" ++ inner ++ "\"\"")).spelling = inner := by
  refine spelling_str_eq_iff.2 (.inl ⟨[], "\"\"\"", _, rfl, ?_, by simp⟩)
  rw [← String.toList_inj]
  simp

/-- Other contents stay as they are. -/
theorem spelling_string_of_not_enclosed {contents : String}
    (h : ∀ inner, contents ≠ "\"\"" ++ inner ++ "\"\"") : (Expr.string contents).spelling = contents := by
  refine spelling_str_eq_iff.2 (.inl ⟨["\"\"\"", "'''"], "\"", ["'"], rfl, rfl, fun q hq between heq => ?_⟩)
  have hchars := String.toList_inj.2 heq
  simp only [List.mem_cons, List.not_mem_nil, or_false] at hq
  rcases hq with rfl | rfl
  · have hcontents : contents.toList ++ ['"'] = ("\"\"" ++ between ++ "\"\"").toList ++ ['"'] := by
      simpa using hchars
    exact h between (String.toList_inj.1 (List.append_cancel_right hcontents))
  · simp at hchars

/-- Contents begin and end with two double quotes and have room for the four of them. -/
def DoublyQuoted (contents : String) : Prop :=
  ['"', '"'] <+: contents.toList ∧ ['"', '"'] <:+ contents.toList ∧ 4 ≤ contents.length

theorem doublyQuoted_iff {contents : String} :
    DoublyQuoted contents ↔ ∃ inner, contents = "\"\"" ++ inner ++ "\"\"" := by
  have hchars := @exists_eq_enclosed_iff ['"', '"'] contents.toList
  constructor
  · rintro ⟨hstart, hend, hlen⟩
    obtain ⟨inner, hinner⟩ := hchars.2 ⟨hlen, hstart, hend⟩
    refine ⟨String.ofList inner, String.toList_inj.1 ?_⟩
    simpa using hinner
  · rintro ⟨inner, rfl⟩
    obtain ⟨hlen, hstart, hend⟩ := hchars.1 ⟨inner.toList, by simp⟩
    exact ⟨hstart, hend, hlen⟩

/-- **One pair of quotes goes, and no more.** A string is spelled without the first of its quotes that encloses it, and
a character without its single quotes; a text that no quote encloses stays. The contents of a string are given back
unless they are doubly quoted, and then they lose these quotes. -/
theorem spelling_unquoted (text contents : String) :
    (∀ inner, (Expr.literal .str text).spelling = inner ↔ Unquoted ["\"\"\"", "'''", "\"", "'"] text inner) ∧
    (∀ inner, (Expr.literal .char text).spelling = inner ↔ Unquoted ["'"] text inner) ∧
    ((Expr.string contents).spelling = contents ↔ ¬ DoublyQuoted contents) ∧
    (DoublyQuoted contents → contents = "\"\"" ++ (Expr.string contents).spelling ++ "\"\"") := by
  refine ⟨fun _ => spelling_str_eq_iff, fun _ => spelling_char_eq_iff, ⟨fun h hdouble => ?_, fun h => ?_⟩, fun h => ?_⟩
  · obtain ⟨inner, rfl⟩ := doublyQuoted_iff.1 hdouble
    rw [spelling_string_enclosed] at h
    -- what is left is shorter by four
    have hlen := congrArg String.length h
    simp only [String.length_append] at hlen
    have htwo : "\"\"".length = 2 := by decide
    omega
  · exact spelling_string_of_not_enclosed fun inner heq => h (doublyQuoted_iff.2 ⟨inner, heq⟩)
  · obtain ⟨inner, rfl⟩ := doublyQuoted_iff.1 h
    rw [spelling_string_enclosed]

/-- Five double quotes have no room for two times three: one goes on either side. -/
example : (Expr.literal .str "\"\"\"\"\"").spelling = "\"\"\"" := by decide

example : (Expr.string "\"\"x\"\"").spelling = "x" := by decide

end ConfigCoverage
