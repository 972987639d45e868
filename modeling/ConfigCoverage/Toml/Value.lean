/-!
# TOML values and tables

* `insertField?`: a value under a dotted key.
* `Section.addTo?`: the table of a header, put into the document.
-/

namespace ConfigCoverage.Toml

/-- How a table came to be, which says what may still be added to it. -/
inductive TableForm where
  /-- By a header of its own. -/
  | headed
  /-- As the way to the table of a header. -/
  | implied
  /-- As the way to a dotted key. -/
  | dotted
  /-- In braces. -/
  | inline
deriving DecidableEq, Repr

/-- A TOML value. -/
inductive Value where
  | string (text : String)
  /-- A number or a truth value. -/
  | scalar
  /-- A date, a time, or both. -/
  | moment
  | array (items : List Value)
  | table (form : TableForm) (fields : List (String × Value))
  /-- The tables of headers in double brackets. -/
  | tables (items : List (List (String × Value)))
deriving Inhabited

/-- The entries of a table, in their order. -/
abbrev Fields := List (String × Value)

/-- The value of a key. -/
def get? (key : String) (fields : Fields) : Option Value := (fields.find? fun f => f.1 == key).map Prod.snd

/-- Put a value under a key, in place of what stood there. -/
def put (key : String) (value : Value) (fields : Fields) : Fields :=
  (fields.filter fun f => f.1 != key) ++ [(key, value)]

/-- Put a value under a dotted key. The key is new; the tables on the way are those of dotted keys or on the way to
headers, and the last of them is that of a dotted key. -/
def insertField? (value : Value) (key : String) : List String → Fields → Option Fields
  | [], fields => if (get? key fields).isSome then none else some (put key value fields)
  | name :: path, fields =>
    match get? name fields with
    | none => (insertField? value key path []).map fun inner => put name (.table .dotted inner) fields
    | some (.table form inner) =>
      if form = .dotted ∨ (form = .implied ∧ path ≠ []) then
        (insertField? value key path inner).map fun inner => put name (.table form inner) fields
      else none
    | some (.tables items) =>
      match path, items.getLast? with
      | _ :: _, some last =>
        (insertField? value key path last).map fun last => put name (.tables (items.dropLast ++ [last])) fields
      | _, _ => none
    | _ => none

/-- A key with dots and its value. -/
structure KeyValue where
  path : List String
  key : String
  value : Value

/-- Put values under their keys, one after the other. -/
def insertAll? (pairs : List KeyValue) (fields : Fields) : Option Fields :=
  pairs.foldl (fun acc p => acc.bind (insertField? p.value p.key p.path)) (some fields)

/-- Change the table at the end of a path of headers; the tables on the way are made as needed. -/
def alterTable? (f : Fields → Option Fields) : List String → Fields → Option Fields
  | [], fields => f fields
  | name :: path, fields =>
    match get? name fields with
    | none => (alterTable? f path []).map fun inner => put name (.table .implied inner) fields
    | some (.table .inline _) => none
    | some (.table form inner) => (alterTable? f path inner).map fun inner => put name (.table form inner) fields
    | some (.tables items) =>
      match items.getLast? with
      | some last => (alterTable? f path last).map fun last => put name (.tables (items.dropLast ++ [last])) fields
      | none => none
    | _ => none

/-- The table of a header: its path, whether it is in double brackets, and what stands below it. -/
structure Section where
  path : List String
  key : String
  isRepeated : Bool
  pairs : List KeyValue

/-- Put the table of a header into the document. A header in single brackets stands once. -/
def Section.addTo? (s : Section) (document : Fields) : Option Fields :=
  alterTable? (fun parent =>
    if s.isRepeated then
      match get? s.key parent with
      | none => (insertAll? s.pairs []).map fun t => put s.key (.tables [t]) parent
      | some (.tables items) => (insertAll? s.pairs []).map fun t => put s.key (.tables (items ++ [t])) parent
      | _ => none
    else
      match get? s.key parent with
      | none => (insertAll? s.pairs []).map fun t => put s.key (.table .headed t) parent
      | some (.table .implied inner) => (insertAll? s.pairs inner).map fun t => put s.key (.table .headed t) parent
      | _ => none) s.path document

end ConfigCoverage.Toml
