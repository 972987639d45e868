import ConfigCoverage.Program
import ConfigCoverage.Text.Blank
import ConfigCoverage.Text.Quoted

/-!
# Spelling of values

The value of a property is compared as text, so each expression has one spelling whatever way it was written: strings
lose their quotes, constants their qualifiers, and arrays are joined with commas. Inside the arguments of a call the
source form is kept.
-/

namespace ConfigCoverage

/-- The texts with `sep` between neighbours. -/
def joinWith (sep : String) : List String → String
  | [] => ""
  | [s] => s
  | s :: t :: ss => s ++ sep ++ joinWith sep (t :: ss)

theorem joinWith_eq_intercalate (sep : String) (ss : List String) : joinWith sep ss = sep.intercalate ss := by
  induction ss with
  | nil => rfl
  | cons s ss ih =>
    cases ss with
    | nil => rw [joinWith, String.intercalate_singleton]
    | cons t ss => rw [joinWith, ih, String.intercalate_cons_cons]

/-- Cut `quote` off both ends, where it stands at both ends without overlap. The room for both is counted in characters;
counted in bytes it is the same, as copies that overlap in a character overlap in its bytes. -/
def stripQuote (quote cs : List Char) : Option (List Char) :=
  if 2 * quote.length ≤ cs.length ∧ quote <+: cs ∧ quote <:+ cs then
    some ((cs.drop quote.length).take (cs.length - 2 * quote.length))
  else none

/-- Cut off the first of `quotes` that encloses `cs`. -/
def stripQuotes (quotes : List (List Char)) (cs : List Char) : List Char :=
  (quotes.findSome? (stripQuote · cs)).getD cs

/-- The quotes of strings, longest first. -/
def stringQuotes : List (List Char) := [['"', '"', '"'], ['\'', '\'', '\''], ['"'], ['\'']]

/-- The spelling of a literal. -/
def literalSpelling (kind : LiteralKind) (text : String) : String :=
  match kind with
  | .str => String.ofList (stripQuotes stringQuotes text.toList)
  | .char => String.ofList (stripQuotes [['\'']] text.toList)
  | _ => text

mutual

/-- An expression as it stands inside a call. -/
def Expr.source : Expr → String
  | .literal .text t => quoted t
  | .literal _ t => t
  | .name n => n
  | .field r n => r.source ++ "." ++ n
  | .array items => "\x7b" ++ joinWith ", " (sources items) ++ "\x7d"
  | .new t args => "new " ++ t ++ "(" ++ joinWith ", " (sources args) ++ ")"
  | .call none m args => m ++ "(" ++ joinWith ", " (sources args) ++ ")"
  | .call (some r) m args => r.source ++ "." ++ m ++ "(" ++ joinWith ", " (sources args) ++ ")"
  | .other t => trimmed t

/-- Expressions as they stand inside a call. -/
def sources : List Expr → List String
  | [] => []
  | e :: es => e.source :: sources es

end

mutual

/-- The spelling of a value. -/
def Expr.spelling : Expr → String
  | .literal kind text => literalSpelling kind text
  | .field _ n => n
  | .array items => joinWith "," (spellings items)
  | e => e.source

/-- The spellings of values. -/
def spellings : List Expr → List String
  | [] => []
  | e :: es => e.spelling :: spellings es

end

theorem spellings_eq_map (es : List Expr) : spellings es = es.map Expr.spelling := by
  induction es with
  | nil => rfl
  | cons e es ih => rw [spellings, ih, List.map_cons]

/-- The spelling of several values of one property. -/
def joinedSpelling (items : List Expr) : String := joinWith "," (spellings items)

end ConfigCoverage
