import ConfigCoverage.ResultMap.Json
import ConfigCoverage.Proofs.JsonText

/-!
# The text of results

Nothing is lost when results are written: the text of results is read as the same results, so that different results
have different texts.

* `Property.ofJson?_toJson`, `PropertySet.ofJson?_toJson`, `ResultMap.ofJson?_toJson`: values are read back.
* `ResultMap.read?_render`: texts are read back.
-/

namespace ConfigCoverage

open Json

/-! ## Values -/

theorem Property.textual_toJson (p : Property) : p.toJson.Textual := by
  refine .object fun f hf => ?_
  rcases List.mem_cons.1 hf with rfl | hf
  · exact .string p.name
  · rw [List.mem_singleton.1 hf]
    exact .string p.value

theorem PropertySet.textual_toJson (ps : PropertySet) : (PropertySet.toJson ps).Textual := by
  refine .array fun v hv => ?_
  obtain ⟨p, -, rfl⟩ := List.mem_map.1 hv
  exact p.textual_toJson

theorem ResultMap.textual_toJson (r : ResultMap) : r.toJson.Textual := by
  refine .object fun f hf => ?_
  obtain ⟨⟨test, ps⟩, -, rfl⟩ := List.mem_map.1 hf
  exact PropertySet.textual_toJson ps

theorem Property.ofJson?_toJson (p : Property) : Property.ofJson? p.toJson = some p := rfl

/-- A set is written in ascending order; read in any order, it is the same set. -/
theorem PropertySet.ofJson?_toJson (ps : PropertySet) : PropertySet.ofJson? (PropertySet.toJson ps) = some ps := by
  have hitems : (ps.toList.map Property.toJson).mapM Property.ofJson? = some ps.toList :=
    mapM_map_eq_some fun p _ => p.ofJson?_toJson
  rw [ofJson?, toJson, Value.list?, hitems, Option.map_some, SortedSet.ofList_toList]

theorem ResultMap.ofJson?_toJson (r : ResultMap) : ResultMap.ofJson? r.toJson = some r := by
  have hentries : (r.toList.map fun e => (e.1, PropertySet.toJson e.2)).mapM entryOfJson? = some r.toList :=
    mapM_map_eq_some fun e _ => by rw [entryOfJson?, PropertySet.ofJson?_toJson, Option.map_some]
  rw [toJson, ofJson?, hentries, Option.map_some]
  exact congrArg some (congrArg ResultMap.mk (SortedMap.ofList_entries r.tests))

/-! ## Texts -/

namespace ResultMap

/-- The text of results is read as these results. -/
theorem read?_render (r : ResultMap) : read? r.render = some r := by
  rw [read?, render, parse?_pretty r.textual_toJson, Option.bind_some, ofJson?_toJson]

/-- **The text of results loses nothing.** It is read as the results it was written from, whatever characters are in
the names and values, and two results have one text only if they are the same. -/
theorem text_determines_results : (∀ r : ResultMap, read? r.render = some r) ∧
    ∀ r r' : ResultMap, r.render = r'.render ↔ r = r' := by
  refine ⟨read?_render, fun r r' => ⟨fun h => ?_, fun h => by rw [h]⟩⟩
  have hr := read?_render r
  rw [h, read?_render r'] at hr
  exact (Option.some.inj hr).symm

end ResultMap

end ConfigCoverage
