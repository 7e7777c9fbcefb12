/-
Percent encoding.

Each part of a URL has a set of ASCII characters that may not stand in it; these, and all
other characters, are written as the bytes of their UTF-8 encoding, each as `%` and two
hexadecimal digits in upper case.  The percent sign is in no set, so that what is encoded
once stays as it is.
-/
import HttpGet.Text.Hex

namespace HttpGet.Percent

/-- A hexadecimal digit, in upper case. -/
def hexDigit (n : Nat) : Char := (HttpGet.hexDigit n).toUpper

/-- A byte as `%` and two digits. -/
def encodeByte (b : UInt8) : List Char :=
  ['%', hexDigit (b.toNat / 16), hexDigit (b.toNat % 16)]

/-- How a character is written where the characters of `set` may not stand. -/
def encodeChar (set : Char → Bool) (c : Char) : List Char :=
  if c.toNat < 0x80 && !set c then [c] else (String.utf8EncodeChar c).flatMap encodeByte

/-- A text in which no character of `set` stands. -/
def encode (set : Char → Bool) (s : List Char) : List Char := s.flatMap (encodeChar set)

/-- The control characters of ASCII. -/
def isControl (c : Char) : Bool := c.toNat < 0x20 || c.toNat = 0x7F

/-- What may not stand in a fragment. -/
def notInFragment (c : Char) : Bool := isControl c || c ∈ [' ', '"', '<', '>', '`']

/-- What may not stand in a path. -/
def notInPath (c : Char) : Bool := notInFragment c || c ∈ ['#', '?', '{', '}']

/-- What may not stand in a user name or a password. -/
def notInUserInfo (c : Char) : Bool :=
  notInPath c || c ∈ ['/', ':', ';', '=', '@', '[', '\\', ']', '^', '|']

/-- What may not stand in a query. -/
def notInQuery (c : Char) : Bool := isControl c || c ∈ [' ', '"', '#', '<', '>']

/-- What may not stand in the query of a URL of the web. -/
def notInSpecialQuery (c : Char) : Bool := notInQuery c || c = '\''

/-- The bytes of a text, with a percent sign and two digits read as the byte they write. -/
def decode : List Char → List UInt8
  | '%' :: h :: l :: rest =>
    match hexValue? h, hexValue? l with
    | some high, some low => UInt8.ofNat (high * 16 + low) :: decode rest
    | _, _ => 0x25 :: decode (h :: l :: rest)
  | c :: rest => String.utf8EncodeChar c ++ decode rest
  | [] => []
termination_by s => s.length

end HttpGet.Percent
