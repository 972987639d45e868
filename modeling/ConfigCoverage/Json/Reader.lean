import ConfigCoverage.Json.Value

/-!
# Shapes of JSON values

What a value must look like to be read as a list or as a record. A record is written as an object with its fields in
any order, or as an array with its fields in their order, the last ones perhaps left out.
-/

namespace ConfigCoverage.Json

/-- The text of a string. -/
def Value.text? : Value → Option String
  | .string s => some s
  | _ => none

/-- The items of an array, each read by `f`. -/
def Value.list? {α : Type} (f : Value → Option α) : Value → Option (List α)
  | .array items => items.mapM f
  | _ => none

/-- The value of a field, if it is there; a field that stands twice is refused. -/
def fieldOf? (name : String) (fields : List (String × Value)) : Option (Option Value) :=
  match fields.filter fun f => f.1 == name with
  | [] => some none
  | [f] => some (some f.2)
  | _ => none

/-- The fields of a record, given by their names in order. Fields of other names are ignored in an object; an array has
no more items than names. -/
def Value.record? (names : List String) : Value → Option (List (Option Value))
  | .object fields => names.mapM fun n => fieldOf? n fields
  | .array items =>
    if items.length ≤ names.length then
      some (items.map some ++ List.replicate (names.length - items.length) none)
    else none
  | _ => none

end ConfigCoverage.Json
