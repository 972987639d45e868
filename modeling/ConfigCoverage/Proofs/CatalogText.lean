import ConfigCoverage.Catalog
import ConfigCoverage.Proofs.JsonText

/-!
# The text of a catalog

A catalog is read more freely than it is written: fields come in any order, some may be missing and others are passed
over, and a record may be a list. What is read has all its fields again, so its own text is read as the same catalog.

* `ModuleInfo.ofJson?_toJson`, `Catalog.ofJson?_toJson`: values are read back, with order and repetitions.
* `Catalog.ofText_of_parse?`: every text of the value of a catalog is read as the catalog.
* `Catalog.text_roundtrip`: texts are read back, on one line or on many.
-/

namespace ConfigCoverage

open Json

/-! ## Values -/

namespace ModuleInfo

theorem textual_toJson (m : ModuleInfo) : m.toJson.Textual := by
  refine .object fun f hf => ?_
  rcases List.mem_cons.1 hf with rfl | hf
  · exact .string m.name
  rcases List.mem_cons.1 hf with rfl | hf
  · exact .string m.fullName
  · rw [List.mem_singleton.1 hf]
    refine .array fun v hv => ?_
    obtain ⟨p, -, rfl⟩ := List.mem_map.1 hv
    refine .object fun g hg => ?_
    rw [List.mem_singleton.1 hg]
    exact .string p

/-- A module has all its fields when it is written, so that none is filled in when it is read. -/
theorem record?_toJson (m : ModuleInfo) :
    m.toJson.record? ["name", "fullName", "properties"] =
      some [some (.string m.name), some (.string m.fullName),
        some (.array (m.properties.map fun p => .object [("name", .string p)]))] := rfl

theorem ofJson?_toJson (m : ModuleInfo) : ofJson? m.toJson = some m := by
  have hproperties :
      (m.properties.map fun p => Value.object [("name", .string p)]).mapM propertyOfJson? = some m.properties :=
    mapM_map_eq_some fun p _ => rfl
  simp only [ofJson?, record?_toJson, Value.text?, Option.getD_some, Value.list?, hproperties]

end ModuleInfo

namespace Catalog

theorem textual_toJson (c : Catalog) : c.toJson.Textual := by
  refine .array fun v hv => ?_
  obtain ⟨m, -, rfl⟩ := List.mem_map.1 hv
  exact m.textual_toJson

theorem ofJson?_toJson (c : Catalog) : ofJson? c.toJson = some c := by
  have hmodules : (c.modules.map ModuleInfo.toJson).mapM ModuleInfo.ofJson? = some c.modules :=
    mapM_map_eq_some fun m _ => m.ofJson?_toJson
  rw [ofJson?, toJson, Value.list?, hmodules, Option.map_some]

/-! ## Texts -/

/-- Every text of the value of a catalog is read as the catalog. -/
theorem ofText_of_parse? {text : String} {c : Catalog} (h : parse? text = some c.toJson) : ofText text = .ok c := by
  rw [ofText, h, Option.bind_some, ofJson?_toJson]

theorem ofText_render (c : Catalog) : ofText c.render = .ok c := ofText_of_parse? (parse?_compact c.textual_toJson)

/-- **A catalog survives its text.** The text of a catalog, on one line or on many, is read as this catalog, with the
order of modules and properties and with all repetitions. A text that is read at all may be written again: the new text
is read as the same catalog, and two texts lead to one new text only if they were read as one catalog. -/
theorem text_roundtrip :
    (∀ c : Catalog, ofText c.render = .ok c ∧ ofText c.toJson.pretty = .ok c) ∧
    (∀ (text : String) (c : Catalog), ofText text = .ok c → ofText c.render = ofText text) ∧
    ∀ (text text' : String) (c c' : Catalog), ofText text = .ok c → ofText text' = .ok c' →
      (c.render = c'.render ↔ ofText text = ofText text') := by
  refine ⟨fun c => ⟨ofText_render c, ofText_of_parse? (parse?_pretty c.textual_toJson)⟩, ?_, ?_⟩
  · intro text c h
    rw [ofText_render, h]
  · intro text text' c c' h h'
    rw [h, h']
    constructor
    · intro hrender
      rw [← ofText_render c, hrender, ofText_render]
    · intro hc
      rw [Except.ok.inj hc]

/-- Modules with fields in another order, with a field that is passed over, as a list, and with escaped characters. -/
def looseText : String :=
  "[\x7b\"properties\":[\x7b\"name\":\"max\"\x7d,[\"max\"]],\"since\":[1.5e3,null],\"name\":\"Foo\"\x7d, [\"B\\u00e4r\\n\"]]"

theorem ofText_looseText : ofText looseText = .ok ⟨[⟨"Foo", "", ["max", "max"]⟩, ⟨"Bär\n", "", []⟩]⟩ :=
  eq_ok_of_toOption (by decide +kernel)

/-- The loose text is read, and what is read is written in full and read again. -/
theorem text_roundtrip_looseText :
    looseText ≠ (⟨[⟨"Foo", "", ["max", "max"]⟩, ⟨"Bär\n", "", []⟩]⟩ : Catalog).render ∧
    ofText (⟨[⟨"Foo", "", ["max", "max"]⟩, ⟨"Bär\n", "", []⟩]⟩ : Catalog).render =
      .ok ⟨[⟨"Foo", "", ["max", "max"]⟩, ⟨"Bär\n", "", []⟩]⟩ := by
  refine ⟨by decide +kernel, ?_⟩
  rw [text_roundtrip.2.1 looseText _ ofText_looseText, ofText_looseText]

end Catalog

end ConfigCoverage
