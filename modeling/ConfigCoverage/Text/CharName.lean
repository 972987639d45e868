import ConfigCoverage.Text.CharNameTable

/-!
# Character names

* `charNamed?`: the character of a name, letter case aside.

Most names are in a table. The names of some ideographs end with the code, and those of Hangul syllables are made of the
names of their letters.
-/

namespace ConfigCoverage

namespace CharName

/-! ## The table -/

/-- A digit of base 62: decimal digits, small letters, capital letters. -/
def digitValue (c : Char) : Nat :=
  if c.isDigit then c.toNat - '0'.toNat
  else if c.isLower then c.toNat - 'a'.toNat + 10
  else c.toNat - 'A'.toNat + 36

/-- The value of digits of base 16. -/
def hexValue (cs : List Char) : Nat := cs.foldl (fun n c => 16 * n + digitValue c.toLower) 0

/-- The code and the rest of an entry that follows the code `last`. -/
def splitCode (last : Nat) : List Char → Nat × List Char
  | '+' :: rest => (hexValue (rest.takeWhile (· != ',')), (rest.dropWhile (· != ',')).drop 1)
  | entry => (last + 1, entry)

/-- The name of an entry that follows the name `last`. -/
def entryName (last : List Char) : List Char → List Char
  | [] => []
  | count :: rest => last.take (digitValue count) ++ rest

/-- The code of a name in what is left of the table, after a code, a name, and the beginning of an entry in reverse. -/
def search (name : List Char) (lastCode : Nat) (lastName entry : List Char) : List Char → Option Nat
  | [] => none
  | '\n' :: rest => search name lastCode lastName entry rest
  | ';' :: rest =>
    let (code, text) := splitCode lastCode entry.reverse
    let found := entryName lastName text
    if found = name then some code else search name code found [] rest
  | c :: rest => search name lastCode lastName (c :: entry) rest

/-! ## Names with a code -/

/-- The beginnings of names that end with the code, and the ranges of codes that have such names. -/
def codedNames : List (String × List (Nat × Nat)) :=
  [("CJK UNIFIED IDEOGRAPH-",
      [(0x3400, 0x4DBF), (0x4E00, 0x9FFF), (0x20000, 0x2A6DF), (0x2A700, 0x2B739), (0x2B740, 0x2B81D),
       (0x2B820, 0x2CEA1), (0x2CEB0, 0x2EBE0), (0x30000, 0x3134A), (0x31350, 0x323AF)]),
   ("CJK COMPATIBILITY IDEOGRAPH-", [(0xF900, 0xFA6D), (0xFA70, 0xFAD9), (0x2F800, 0x2FA1D)]),
   ("KHITAN SMALL SCRIPT CHARACTER-", [(0x18B00, 0x18CD5)]),
   ("NUSHU CHARACTER-", [(0x1B170, 0x1B2FB)])]

/-- Is a text a code in capitals, of four or five digits and none too many? -/
def isCode (cs : List Char) : Bool :=
  cs.all (fun c => c.isDigit || 'A' ≤ c && c ≤ 'F') &&
    (cs.length = 4 || cs.length = 5 && cs.head? != some '0')

/-- The code of a name that ends with it. -/
def coded? (name : List Char) : Option Nat :=
  codedNames.findSome? fun (start, ranges) =>
    let start := start.toList
    let digits := name.drop start.length
    let code := hexValue digits
    if start.isPrefixOf name && isCode digits && ranges.any (fun (low, high) => low ≤ code && code ≤ high) then some code
    else none

/-! ## Syllables -/

/-- The names of the consonants that a syllable begins with. -/
def leadingLetters : List String :=
  ["G", "GG", "N", "D", "DD", "R", "M", "B", "BB", "S", "SS", "", "J", "JJ", "C", "K", "T", "P", "H"]

/-- The names of the vowels. -/
def vowels : List String :=
  ["A", "AE", "YA", "YAE", "EO", "E", "YEO", "YE", "O", "WA", "WAE", "OE", "YO", "U", "WEO", "WE", "WI", "YU", "EU",
   "YI", "I"]

/-- The names of the consonants that a syllable ends with; the first is for none. -/
def trailingLetters : List String :=
  ["", "G", "GG", "GS", "N", "NJ", "NH", "D", "L", "LG", "LM", "LB", "LS", "LT", "LP", "LH", "M", "B", "BS", "S", "SS",
   "NG", "J", "C", "K", "T", "P", "H"]

/-- The code of a syllable by the letters it is made of. -/
def syllable? (letters : String) : Option Nat :=
  (leadingLetters.zipIdx.findSome? fun (l, i) => vowels.zipIdx.findSome? fun (v, j) =>
    trailingLetters.zipIdx.findSome? fun (t, k) =>
      if l ++ v ++ t = letters then some (0xAC00 + (i * 21 + j) * 28 + k) else none)

/-- The code of the name of a syllable. -/
def hangul? (name : List Char) : Option Nat :=
  let start := "HANGUL SYLLABLE ".toList
  if start.isPrefixOf name then syllable? (String.ofList (name.drop start.length)) else none

end CharName

/-- The character of a name. -/
def charNamed? (name : String) : Option Char :=
  let name := name.toList.map Char.toUpper
  ((CharName.coded? name).orElse fun _ => (CharName.hangul? name).orElse fun _ =>
    CharName.search name 0 [] [] charNameTable.toList).map Char.ofNat

end ConfigCoverage
