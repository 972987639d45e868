/-!
# Bytes as text

A text is written in UTF-8 or, with a byte order mark in front, in one of the two forms of UTF-16.

* `Encoding.decode?`: the text of some bytes, or nothing if they are not valid.
* `decodeSource`: the text of a source file, with one kind of line end.
-/

namespace ConfigCoverage

/-- The order of the two bytes of a unit. -/
inductive ByteOrder where
  | little
  | big
deriving DecidableEq, Repr

/-- How a text is written in bytes. -/
inductive Encoding where
  | utf8
  | utf16 (order : ByteOrder)
deriving DecidableEq, Repr

namespace Encoding

/-- The name of an encoding in messages. -/
def name : Encoding → String
  | utf8 => "UTF-8"
  | utf16 .little => "UTF-16LE"
  | utf16 .big => "UTF-16BE"

/-- The byte order mark. -/
def mark : Encoding → List UInt8
  | utf8 => [0xEF, 0xBB, 0xBF]
  | utf16 .little => [0xFF, 0xFE]
  | utf16 .big => [0xFE, 0xFF]

/-- The encoding that the first bytes tell. -/
def ofBytes (bytes : List UInt8) : Encoding :=
  if (utf16 .little).mark.isPrefixOf bytes then utf16 .little
  else if (utf16 .big).mark.isPrefixOf bytes then utf16 .big
  else utf8

/-- The bytes after the mark, if there is one. -/
def withoutMark (e : Encoding) (bytes : List UInt8) : List UInt8 :=
  if e.mark.isPrefixOf bytes then bytes.drop e.mark.length else bytes

/-! ## UTF-16 -/

/-- The unit of two bytes. -/
def unitOf (order : ByteOrder) (first second : UInt8) : Nat :=
  match order with
  | .little => second.toNat * 256 + first.toNat
  | .big => first.toNat * 256 + second.toNat

/-- The units of some bytes; a byte must not be left over. -/
def units? (order : ByteOrder) : List UInt8 → Option (List Nat)
  | [] => some []
  | [_] => none
  | a :: b :: rest => (units? order rest).map (unitOf order a b :: ·)

/-- Is a unit the first half of a pair? -/
def isHighSurrogate (unit : Nat) : Bool := 0xD800 ≤ unit && unit < 0xDC00

/-- Is a unit the second half of a pair? -/
def isLowSurrogate (unit : Nat) : Bool := 0xDC00 ≤ unit && unit < 0xE000

/-- The character of a pair. -/
def pairChar (high low : Nat) : Char := Char.ofNat (0x10000 + (high - 0xD800) * 0x400 + (low - 0xDC00))

/-- The characters of units. No half of a pair may stand alone. -/
def chars? : List Nat → Option (List Char)
  | [] => some []
  | [unit] => if isHighSurrogate unit || isLowSurrogate unit then none else some [Char.ofNat unit]
  | unit :: next :: rest =>
    if isHighSurrogate unit then
      if isLowSurrogate next then (chars? rest).map (pairChar unit next :: ·) else none
    else if isLowSurrogate unit then none
    else (chars? (next :: rest)).map (Char.ofNat unit :: ·)

/-! ## Decoding -/

/-- The text of some bytes without a mark. -/
def decode? (e : Encoding) (bytes : List UInt8) : Option String :=
  match e with
  | utf8 => String.fromUTF8? ⟨bytes.toArray⟩
  | utf16 order => ((units? order bytes).bind chars?).map String.ofList

end Encoding

/-- Write each line end of two characters as one. -/
def unifyLineEnds : List Char → List Char
  | '\r' :: '\n' :: rest => '\n' :: unifyLineEnds rest
  | c :: rest => c :: unifyLineEnds rest
  | [] => []

/-- The text of a source file; where there is none, the encoding in which the bytes are not valid. -/
def decodeSource (bytes : List UInt8) : Except Encoding String :=
  let e := Encoding.ofBytes bytes
  match e.decode? (e.withoutMark bytes) with
  | some text => .ok (String.ofList (unifyLineEnds text.toList))
  | none => .error e

end ConfigCoverage
