import ConfigCoverage.Spelling

/-!
# Texts in the arguments of a call

Inside a call a decoded text is written between double quotes, with escapes, and an array between braces. A text may
hold every mark of this notation, and still the arguments can be read off what is written: what is written for each of
them tells where it ends.

* `SelfDelimiting`: what is written for a thing tells the thing and where it ends.
* `flatMap_append_close_inj`: self-delimiting pieces one after another, up to a mark that begins none of them.
* `quoteChar_selfDelimiting`, `quoteChars_append_inj`: characters with their escapes, and texts.
* `Expr.Decoded.selfDelimiting`: arguments built of decoded texts and arrays.
* `spelling_determines_arguments`: calls and constructions that are spelled alike have the same arguments.
-/

namespace ConfigCoverage

/-! ## Pieces that tell where they end -/

section Pieces

variable {α : Type}

/-- What is written for `a` tells `a` and where it ends: nothing else of its kind is written alike, whatever follows. -/
def SelfDelimiting (kind : α → Prop) (write : α → List Char) (a : α) : Prop :=
  ∀ a', kind a' → ∀ rest rest', write a ++ rest = write a' ++ rest' → a = a' ∧ rest = rest'

/-- Pieces one after another, up to a mark that begins none of them, tell the pieces and where they end. -/
theorem flatMap_append_close_inj {kind : α → Prop} {write : α → List Char} {close : Char}
    (hstart : ∀ a, kind a → ∀ rest rest', write a ++ rest ≠ close :: rest') {items items' : List α}
    (hkind : ∀ a ∈ items, kind a) (hkind' : ∀ a ∈ items', kind a) (hends : ∀ a ∈ items, SelfDelimiting kind write a)
    {rest rest' : List Char} (h : items.flatMap write ++ close :: rest = items'.flatMap write ++ close :: rest') :
    items = items' ∧ rest = rest' := by
  induction items generalizing items' with
  | nil =>
    cases items' with
    | nil => exact ⟨rfl, (List.cons.inj h).2⟩
    | cons a' items' =>
      rw [List.flatMap_nil, List.nil_append, List.flatMap_cons, List.append_assoc] at h
      exact absurd h.symm (hstart a' (hkind' a' List.mem_cons_self) _ _)
  | cons a items ih =>
    cases items' with
    | nil =>
      rw [List.flatMap_nil, List.nil_append, List.flatMap_cons, List.append_assoc] at h
      exact absurd h (hstart a (hkind a List.mem_cons_self) _ _)
    | cons a' items' =>
      rw [List.flatMap_cons, List.flatMap_cons, List.append_assoc, List.append_assoc] at h
      obtain ⟨rfl, htail⟩ := hends a List.mem_cons_self a' (hkind' a' List.mem_cons_self) _ _ h
      obtain ⟨rfl, hrest⟩ := ih (fun b hb => hkind b (List.mem_cons_of_mem a hb))
        (fun b hb => hkind' b (List.mem_cons_of_mem a hb)) (fun b hb => hends b (List.mem_cons_of_mem a hb)) htail
      exact ⟨rfl, hrest⟩

end Pieces

/-! ## Characters and texts -/

theorem not_mem_toDigits (n : Nat) : Char.ofNat 0x7D ∉ Nat.toDigits 16 n := by
  induction n using Nat.strongRecOn with
  | ind n ih =>
    have hdigit : ∀ k : Nat, Char.ofNat 0x7D ≠ k.digitChar := fun k => (Nat.digitChar_ne _ rfl).symm
    rw [Nat.toDigits_eq_if (by decide)]
    split
    · simp [hdigit]
    · have hlt : n / 16 < n := by omega
      simp [ih _ hlt, hdigit]

/-- A number below 16 has one digit, any other has more. -/
theorem toDigits_ne_of_lt {m n : Nat} (hm : m < 16) (hn : 16 ≤ n) : Nat.toDigits 16 m ≠ Nat.toDigits 16 n := by
  intro h
  rw [Nat.toDigits_of_lt_base hm, Nat.toDigits_of_base_le (by decide) hn] at h
  have hlen := congrArg List.length h
  have hquotient : 0 < (Nat.toDigits 16 (n / 16)).length := Nat.length_toDigits_pos
  simp only [List.length_append, List.length_singleton] at hlen
  omega

/-- The digits of a number tell the number. -/
theorem toDigits_inj {m n : Nat} (h : Nat.toDigits 16 m = Nat.toDigits 16 n) : m = n := by
  have hdigit : ∀ i < 16, ∀ j < 16, Nat.digitChar i = Nat.digitChar j → i = j := by decide
  induction m using Nat.strongRecOn generalizing n with
  | ind m ih =>
    rcases Nat.lt_or_ge m 16 with hm | hm <;> rcases Nat.lt_or_ge n 16 with hn | hn
    · rw [Nat.toDigits_of_lt_base hm, Nat.toDigits_of_lt_base hn] at h
      exact hdigit m hm n hn (List.cons.inj h).1
    · exact absurd h (toDigits_ne_of_lt hm hn)
    · exact absurd h.symm (toDigits_ne_of_lt hn hm)
    · rw [Nat.toDigits_of_base_le (by decide) hm, Nat.toDigits_of_base_le (by decide) hn] at h
      obtain ⟨hfront, hlast⟩ := List.append_inj' h rfl
      have hdiv : m / 16 = n / 16 := ih (m / 16) (by omega) hfront
      have hmod : m % 16 = n % 16 :=
        hdigit _ (Nat.mod_lt m (by decide)) _ (Nat.mod_lt n (by decide)) (List.cons.inj hlast).1
      omega

/-- The character that an escape of one letter stands for. -/
def escapedBy (letter : Char) : Char :=
  if letter = '0' then '\x00' else if letter = 't' then '\t' else if letter = 'r' then '\r'
  else if letter = 'n' then '\n' else letter

/-- **The three ways a character is written**: an escape of one letter, an escape with its code point, or itself. -/
theorem quoteChar_cases (c : Char) :
    (∃ letter, quoteChar c = ['\\', letter] ∧ letter ≠ 'u' ∧ c = escapedBy letter) ∨
    quoteChar c = '\\' :: 'u' :: Char.ofNat 0x7B :: (Nat.toDigits 16 c.toNat ++ [Char.ofNat 0x7D]) ∨
    (quoteChar c = [c] ∧ c ≠ '\\' ∧ c ≠ '"') := by
  unfold quoteChar
  split
  · next hc => exact .inl ⟨'0', rfl, by decide, hc⟩
  split
  · next hc => exact .inl ⟨'t', rfl, by decide, hc⟩
  split
  · next hc => exact .inl ⟨'r', rfl, by decide, hc⟩
  split
  · next hc => exact .inl ⟨'n', rfl, by decide, hc⟩
  split
  · next hc => exact .inl ⟨'"', rfl, by decide, hc⟩
  split
  · next hc => exact .inl ⟨'\\', rfl, by decide, hc⟩
  next hquote hslash =>
  split
  · exact .inr (.inl rfl)
  · exact .inr (.inr ⟨rfl, hslash, hquote⟩)

/-- Digits up to a brace tell the number and where they end. -/
theorem toDigits_append_brace_inj {m n : Nat} {rest rest' : List Char}
    (h : Nat.toDigits 16 m ++ Char.ofNat 0x7D :: rest = Nat.toDigits 16 n ++ Char.ofNat 0x7D :: rest') :
    m = n ∧ rest = rest' := by
  have hstart : ∀ c : Char, c ≠ Char.ofNat 0x7D → ∀ rest rest' : List Char, [c] ++ rest ≠ Char.ofNat 0x7D :: rest' :=
    fun c hc rest rest' heq => hc (List.cons.inj heq).1
  have hkind : ∀ k : Nat, ∀ c ∈ Nat.toDigits 16 k, c ≠ Char.ofNat 0x7D :=
    fun k c hc heq => not_mem_toDigits k (heq ▸ hc)
  have hends : ∀ c : Char, SelfDelimiting (· ≠ Char.ofNat 0x7D) (fun c => [c]) c :=
    fun c c' _ rest rest' heq => List.cons.inj heq
  rw [← List.flatMap_singleton' (Nat.toDigits 16 m), ← List.flatMap_singleton' (Nat.toDigits 16 n)] at h
  obtain ⟨hdigits, hrest⟩ := flatMap_append_close_inj hstart (hkind m) (hkind n) (fun c _ => hends c) h
  exact ⟨toDigits_inj hdigits, hrest⟩

/-- What is written for a character tells the character and where it ends. -/
theorem quoteChar_selfDelimiting (c : Char) : SelfDelimiting (fun _ => True) quoteChar c := by
  intro d _ rest rest' h
  rcases quoteChar_cases c with ⟨x, hc, hx, rfl⟩ | hc | ⟨hc, hslash, -⟩
  · rcases quoteChar_cases d with ⟨y, hd, -, rfl⟩ | hd | ⟨hd, hslash', -⟩
    · simp only [hc, hd, List.cons_append, List.nil_append, List.cons.injEq, true_and] at h
      exact ⟨congrArg escapedBy h.1, h.2⟩
    · simp [hc, hd, hx] at h
    · simp [hc, hd, hslash'.symm] at h
  · rcases quoteChar_cases d with ⟨y, hd, hy, rfl⟩ | hd | ⟨hd, hslash', -⟩
    · simp [hc, hd, hy.symm] at h
    · simp only [hc, hd, List.cons_append, List.append_assoc, List.cons.injEq, true_and] at h
      obtain ⟨hcode, hrest⟩ := toDigits_append_brace_inj h
      exact ⟨Char.toNat_inj.1 hcode, hrest⟩
    · simp [hc, hd, hslash'.symm] at h
  · rcases quoteChar_cases d with ⟨y, hd, -, rfl⟩ | hd | ⟨hd, -, -⟩
    · simp [hc, hd, hslash] at h
    · simp [hc, hd, hslash] at h
    · rw [hc, hd] at h
      exact List.cons.inj h

/-- No character is written with a double quote in front. -/
theorem quoteChar_append_ne (c : Char) (rest rest' : List Char) : quoteChar c ++ rest ≠ '"' :: rest' := by
  rcases quoteChar_cases c with ⟨x, hc, -, -⟩ | hc | ⟨hc, -, hquote⟩
  · simp [hc]
  · simp [hc]
  · simp [hc, hquote]

/-- A text between double quotes tells the text and where it ends. -/
theorem quoteChars_append_inj {cs ds rest rest' : List Char} (h : quoteChars cs ++ rest = quoteChars ds ++ rest') :
    cs = ds ∧ rest = rest' := by
  simp only [quoteChars, List.cons_append, List.append_assoc, List.cons.injEq, true_and] at h
  exact flatMap_append_close_inj (fun c _ => quoteChar_append_ne c) (fun _ _ => trivial) (fun _ _ => trivial)
    (fun c _ => quoteChar_selfDelimiting c) h

/-! ## Arguments -/

/-- An expression is built of decoded texts by arrays. -/
inductive Expr.Decoded : Expr → Prop
  | text (t : String) : Decoded (.literal .text t)
  | array {items : List Expr} : (∀ e ∈ items, Decoded e) → Decoded (.array items)

/-- The characters of an expression as it stands inside a call. -/
def Expr.sourceChars (e : Expr) : List Char := e.source.toList

/-- The characters of expressions between the brackets of a call. -/
def argumentChars (es : List Expr) : List Char := (joinWith ", " (sources es)).toList

/-- The first argument stands alone, each further one after a comma and a blank. -/
theorem argumentChars_cons (e : Expr) (es : List Expr) :
    argumentChars (e :: es) = e.sourceChars ++ es.flatMap fun f => ',' :: ' ' :: f.sourceChars := by
  unfold argumentChars
  induction es generalizing e with
  | nil => simp [sources, joinWith, Expr.sourceChars]
  | cons f es ih =>
    rw [sources, sources, joinWith, String.toList_append, String.toList_append, ← sources, ih f, List.flatMap_cons]
    simp [Expr.sourceChars]

theorem sourceChars_text (t : String) : (Expr.literal .text t).sourceChars = quoteChars t.toList := by
  rw [Expr.sourceChars, Expr.source, quoted, String.toList_ofList]

theorem sourceChars_array (items : List Expr) :
    (Expr.array items).sourceChars = Char.ofNat 0x7B :: (argumentChars items ++ [Char.ofNat 0x7D]) := by
  rw [Expr.sourceChars, Expr.source, argumentChars]
  simp

/-- A decoded expression is written with a double quote or a brace in front. -/
theorem Expr.Decoded.sourceChars_append_ne {e : Expr} (h : e.Decoded) {c : Char} (hc : c ≠ '"' ∧ c ≠ Char.ofNat 0x7B)
    (rest rest' : List Char) : e.sourceChars ++ rest ≠ c :: rest' := by
  intro heq
  cases h with
  | text t =>
    rw [sourceChars_text] at heq
    exact hc.1 (List.cons.inj heq).1.symm
  | array =>
    rw [sourceChars_array] at heq
    exact hc.2 (List.cons.inj heq).1.symm

/-- Arguments up to a closing bracket tell the arguments and where they end, if each argument does. -/
theorem argumentChars_append_inj {close : Char} (hcomma : close ≠ ',')
    (hclose : close ≠ '"' ∧ close ≠ Char.ofNat 0x7B) {items items' : List Expr} (hitems : ∀ e ∈ items, e.Decoded)
    (hitems' : ∀ e ∈ items', e.Decoded) (hends : ∀ e ∈ items, SelfDelimiting Expr.Decoded Expr.sourceChars e)
    {rest rest' : List Char} (h : argumentChars items ++ close :: rest = argumentChars items' ++ close :: rest') :
    items = items' ∧ rest = rest' := by
  cases items with
  | nil =>
    cases items' with
    | nil => exact ⟨rfl, (List.cons.inj h).2⟩
    | cons e' items' =>
      rw [argumentChars_cons, List.append_assoc] at h
      exact absurd h.symm ((hitems' e' List.mem_cons_self).sourceChars_append_ne hclose _ _)
  | cons e items =>
    cases items' with
    | nil =>
      rw [argumentChars_cons, List.append_assoc] at h
      exact absurd h ((hitems e List.mem_cons_self).sourceChars_append_ne hclose _ _)
    | cons e' items' =>
      -- with a comma in front of the first argument too, all of them are pieces that begin alike
      have hpieces : ((e :: items).flatMap fun f => ',' :: ' ' :: f.sourceChars) ++ close :: rest =
          ((e' :: items').flatMap fun f => ',' :: ' ' :: f.sourceChars) ++ close :: rest' := by
        rw [argumentChars_cons, argumentChars_cons] at h
        exact congrArg (fun cs => ',' :: ' ' :: cs) h
      have hstart : ∀ f : Expr, f.Decoded → ∀ rest rest' : List Char,
          (',' :: ' ' :: f.sourceChars) ++ rest ≠ close :: rest' :=
        fun f _ rest rest' heq => hcomma (List.cons.inj heq).1.symm
      have hpiece : ∀ f ∈ e :: items, SelfDelimiting Expr.Decoded (fun f => ',' :: ' ' :: f.sourceChars) f :=
        fun f hf f' hf' rest rest' heq => hends f hf f' hf' rest rest' (List.cons.inj (List.cons.inj heq).2).2
      exact flatMap_append_close_inj hstart hitems hitems' hpiece hpieces

/-- What is written for a decoded expression tells the expression and where it ends. -/
theorem Expr.Decoded.selfDelimiting {e : Expr} (h : e.Decoded) : SelfDelimiting Expr.Decoded Expr.sourceChars e := by
  induction h with
  | text t =>
    intro e' h' rest rest' heq
    cases h' with
    | text t' =>
      rw [sourceChars_text, sourceChars_text] at heq
      obtain ⟨ht, hrest⟩ := quoteChars_append_inj heq
      exact ⟨by rw [String.toList_inj.1 ht], hrest⟩
    | array =>
      rw [sourceChars_text, sourceChars_array] at heq
      simp [quoteChars] at heq
  | @array items hitems ih =>
    intro e' h' rest rest' heq
    cases h' with
    | text t' =>
      rw [sourceChars_text, sourceChars_array] at heq
      simp [quoteChars] at heq
    | @array items' hitems' =>
      simp only [sourceChars_array, List.cons_append, List.append_assoc, List.nil_append, List.cons.injEq,
        true_and] at heq
      obtain ⟨rfl, hrest⟩ := argumentChars_append_inj (by decide) (by decide) hitems hitems' ih heq
      exact ⟨rfl, hrest⟩

/-! ## Calls -/

/-- Lists of decoded arguments between brackets are equal if they are written alike. -/
theorem eq_of_bracketed_eq {front : String} {args args' : List Expr} (hargs : ∀ e ∈ args, e.Decoded)
    (hargs' : ∀ e ∈ args', e.Decoded)
    (h : front ++ "(" ++ joinWith ", " (sources args) ++ ")" = front ++ "(" ++ joinWith ", " (sources args') ++ ")") :
    args = args' := by
  have hchars := String.toList_inj.2 h
  simp only [String.toList_append, List.append_assoc, List.append_cancel_left_eq] at hchars
  exact (argumentChars_append_inj (by decide) (by decide) hargs hargs' (fun e he => (hargs e he).selfDelimiting)
    hchars).1

/-- **Decoded arguments are written unambiguously.** Two calls of a method on one receiver, or on none, and two
constructions of a type, whose arguments are built of decoded texts by arrays, are spelled alike only if the arguments
are the same. -/
theorem spelling_determines_arguments {args args' : List Expr} (hargs : ∀ e ∈ args, e.Decoded)
    (hargs' : ∀ e ∈ args', e.Decoded) :
    (∀ receiver method, (Expr.call receiver method args).spelling = (Expr.call receiver method args').spelling ↔
      args = args') ∧
    ∀ typeName, (Expr.new typeName args).spelling = (Expr.new typeName args').spelling ↔ args = args' := by
  refine ⟨fun receiver method => ⟨fun h => ?_, fun h => by rw [h]⟩, fun typeName => ⟨fun h => ?_, fun h => by rw [h]⟩⟩
  · cases receiver with
    | none => exact eq_of_bracketed_eq hargs hargs' h
    | some receiver => exact eq_of_bracketed_eq hargs hargs' h
  · exact eq_of_bracketed_eq hargs hargs' h

/-- A text that looks like an array of two texts is told from the array. -/
theorem spelling_determines_arguments_array :
    (∀ e ∈ [Expr.literal .text "\x7b\"a\", \"b\"\x7d"], e.Decoded) ∧
    (∀ e ∈ [Expr.array [.literal .text "a", .literal .text "b"]], e.Decoded) ∧
    (Expr.call (some (.name "re")) "compile" [.literal .text "\x7b\"a\", \"b\"\x7d"]).spelling ≠
      (Expr.call (some (.name "re")) "compile" [.array [.literal .text "a", .literal .text "b"]]).spelling := by
  have htext : ∀ e ∈ [Expr.literal .text "\x7b\"a\", \"b\"\x7d"], e.Decoded := by
    intro e he
    rw [List.mem_singleton.1 he]
    exact .text _
  have harray : ∀ e ∈ [Expr.array [.literal .text "a", .literal .text "b"]], e.Decoded := by
    intro e he
    rw [List.mem_singleton.1 he]
    refine .array fun f hf => ?_
    simp only [List.mem_cons, List.not_mem_nil, or_false] at hf
    rcases hf with rfl | rfl
    · exact .text _
    · exact .text _
  refine ⟨htext, harray, fun h => ?_⟩
  have heq := ((spelling_determines_arguments htext harray).1 (some (.name "re")) "compile").1 h
  simp at heq

end ConfigCoverage
