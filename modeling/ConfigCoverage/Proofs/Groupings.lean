import ConfigCoverage.Proofs.Renaming

/-!
# Several values of one property

A property with several values is written in three ways: the values are the arguments of a setter, or stand in one
array that is handed to the setter or assigned to the field. The values may be put together in further arrays. None of
this shows in the property.

* `Grouped`: values put together in arrays, in their order and to any depth.
* `Grouped.joinedSpelling_eq`: the spelling of several values does not show how they are put together.
* `stmtProperty_grouped`: the three ways of writing, with the values put together in any way, yield one property.
-/

namespace ConfigCoverage

/-! ## Joined spellings -/

theorem joinedSpelling_eq_intercalate (es : List Expr) :
    joinedSpelling es = ",".intercalate (es.map Expr.spelling) := by
  rw [joinedSpelling, joinWith_eq_intercalate, spellings_eq_map]

theorem joinedSpelling_singleton (e : Expr) : joinedSpelling [e] = e.spelling := rfl

theorem spelling_array (es : List Expr) : (Expr.array es).spelling = joinedSpelling es := rfl

theorem joinedSpelling_cons (e : Expr) {es : List Expr} (hes : es ≠ []) :
    joinedSpelling (e :: es) = e.spelling ++ "," ++ joinedSpelling es := by
  simp only [joinedSpelling_eq_intercalate, List.map_cons]
  exact String.intercalate_cons_of_ne_nil (by simpa using hes)

/-- Two lists of values are joined like their elements, if neither is empty. -/
theorem joinedSpelling_append {es fs : List Expr} (hes : es ≠ []) (hfs : fs ≠ []) :
    joinedSpelling (es ++ fs) = joinedSpelling es ++ "," ++ joinedSpelling fs := by
  simp only [joinedSpelling_eq_intercalate, List.map_append]
  exact String.intercalate_append_of_ne_nil (by simpa using hes) (by simpa using hfs)

/-! ## Groupings -/

/-- `values` are `items` in their order, where any that stand together may be put in an array, and so may the arrays,
to any depth. No array that is put around them is empty. -/
inductive Grouped : List Expr → List Expr → Prop
  | nil : Grouped [] []
  | item (e : Expr) {items values : List Expr} : Grouped items values → Grouped (e :: items) (e :: values)
  | array {inner elements items values : List Expr} : elements ≠ [] → Grouped inner elements →
      Grouped items values → Grouped (inner ++ items) (.array elements :: values)

namespace Grouped

variable {items values : List Expr}

/-- Values may be left as they are. -/
theorem refl (items : List Expr) : Grouped items items := by
  induction items with
  | nil => exact .nil
  | cons e items ih => exact .item e ih

theorem eq_nil_iff (h : Grouped items values) : values = [] ↔ items = [] := by
  induction h with
  | nil => simp
  | item => simp
  | array hne _ _ ihinner => simp [mt ihinner.2 hne]

/-- The spelling of several values does not show how they are put together. -/
theorem joinedSpelling_eq (h : Grouped items values) : joinedSpelling values = joinedSpelling items := by
  induction h with
  | nil => rfl
  | @item e items values h ih =>
    by_cases hnil : items = []
    · rw [hnil, h.eq_nil_iff.2 hnil]
    · have hvalues : values ≠ [] := mt h.eq_nil_iff.1 hnil
      rw [joinedSpelling_cons e hvalues, joinedSpelling_cons e hnil, ih]
  | @array inner elements items values hne hinner h ihinner ih =>
    have harray : (Expr.array elements).spelling = joinedSpelling inner := by rw [spelling_array, ihinner]
    -- the comma after the array, if a value follows, is the one between `inner` and `items`
    by_cases hnil : items = []
    · rw [hnil, h.eq_nil_iff.2 hnil, List.append_nil, joinedSpelling_singleton, harray]
    · have hvalues : values ≠ [] := mt h.eq_nil_iff.1 hnil
      calc joinedSpelling (.array elements :: values)
          = (Expr.array elements).spelling ++ "," ++ joinedSpelling values := joinedSpelling_cons _ hvalues
        _ = joinedSpelling inner ++ "," ++ joinedSpelling items := by rw [harray, ih]
        _ = joinedSpelling (inner ++ items) := (joinedSpelling_append (mt hinner.eq_nil_iff.2 hne) hnil).symm

end Grouped

/-! ## Statements -/

/-- The three statements that give a property several values: they are the arguments of a setter, or stand in an array
that is its argument, or in an array that is assigned to the field. -/
def valueStatements (receiver : Expr) (method name : String) (values : List Expr) : List Stmt :=
  [.expr (.call (some receiver) method values), .expr (.call (some receiver) method [.array values]),
   .assign (.field receiver name) (.array values)]

theorem stmtProperty_valueStatements {propertyName : String → Option String} {b : Bindings} {receiver : Expr}
    {method name : String} {values : List Expr} (bound : b.refersToModule receiver = true)
    (sets : propertyName method = some name) (hne : values ≠ []) {s : Stmt}
    (hs : s ∈ valueStatements receiver method name values) :
    stmtProperty propertyName b s = some ⟨name, joinedSpelling values⟩ := by
  simp only [valueStatements, List.mem_cons, List.not_mem_nil, or_false] at hs
  rcases hs with rfl | rfl | rfl
  · rw [stmtProperty_setter, if_pos ⟨bound, hne⟩, sets, Option.map_some]
  · rw [stmtProperty_setter, if_pos ⟨bound, by simp⟩, sets, Option.map_some, joinedSpelling_singleton, spelling_array]
  · rw [stmtProperty, if_pos bound, spelling_array]

/-- **Several values are one value.** On an instance of the module, a setter with several arguments, a setter with an
array of them and an assignment of the array to the field yield one property, and they still do when the values are put
together in arrays of any depth. -/
theorem stmtProperty_grouped {propertyName : String → Option String} {b : Bindings} {receiver : Expr}
    {method name : String} {items : List Expr} (bound : b.refersToModule receiver = true)
    (sets : propertyName method = some name) (hne : items ≠ []) :
    (∀ s ∈ valueStatements receiver method name items,
      stmtProperty propertyName b s = some ⟨name, joinedSpelling items⟩) ∧
    ∀ values, Grouped items values → ∀ s ∈ valueStatements receiver method name values,
      stmtProperty propertyName b s = some ⟨name, joinedSpelling items⟩ := by
  refine ⟨fun s hs => stmtProperty_valueStatements bound sets hne hs, fun values h s hs => ?_⟩
  rw [← h.joinedSpelling_eq]
  exact stmtProperty_valueStatements bound sets (mt h.eq_nil_iff.1 hne) hs

/-- The values `A`, `B`, `C` as two arguments of which the second is an array that holds an array. -/
theorem stmtProperty_grouped_nested :
    (Bindings.empty.set "check" .module).refersToModule (.name "check") = true ∧
    setterProperty "set" "setTokens" = some "tokens" ∧
    Grouped [.name "A", .name "B", .name "C"] [.name "A", .array [.array [.name "B"], .name "C"]] ∧
    stmtProperty (setterProperty "set") (Bindings.empty.set "check" .module)
      (.expr (.call (some (.name "check")) "setTokens" [.name "A", .array [.array [.name "B"], .name "C"]])) =
      some ⟨"tokens", "A,B,C"⟩ := by
  have bound : (Bindings.empty.set "check" .module).refersToModule (.name "check") = true := by decide
  have sets : setterProperty "set" "setTokens" = some "tokens" := by decide
  have inner : Grouped ([.name "B"] ++ [.name "C"]) [.array [.name "B"], .name "C"] :=
    .array (by simp) (.refl [.name "B"]) (.refl [.name "C"])
  have outer : Grouped ([.name "B", .name "C"] ++ []) [.array [.array [.name "B"], .name "C"]] :=
    .array (by simp) inner .nil
  have grouped := outer.item (.name "A")
  exact ⟨bound, sets, grouped, (stmtProperty_grouped bound sets (by simp)).2 _ grouped _ List.mem_cons_self⟩

end ConfigCoverage
