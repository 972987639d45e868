/-!
# White space

The characters with the Unicode property `White_Space`, and trimming them off the ends of a text.
-/

namespace ConfigCoverage

/-- Has `c` the property `White_Space`? -/
def isBlank (c : Char) : Bool :=
  let n := c.toNat
  (9 ≤ n && n ≤ 13) || n == 0x20 || n == 0x85 || n == 0xA0 || n == 0x1680 || (0x2000 ≤ n && n ≤ 0x200A) ||
    n == 0x2028 || n == 0x2029 || n == 0x202F || n == 0x205F || n == 0x3000

/-- Drop the longest end of `cs` that lies in `p`. -/
def dropEndWhile (p : Char → Bool) (cs : List Char) : List Char := (cs.reverse.dropWhile p).reverse

/-- Drop white space at both ends. -/
def trimBlank (cs : List Char) : List Char := dropEndWhile isBlank (cs.dropWhile isBlank)

/-- Drop white space at both ends of a text. -/
def trimmed (s : String) : String := String.ofList (trimBlank s.toList)

end ConfigCoverage
