/-
Numeric hosts.

An address of 32 bits is written as up to four numbers with dots between them; each but
the last is a byte, the last fills the bytes that are left, and a number may be decimal,
octal or hexadecimal.  Its normal form is four decimal bytes.

An address of 128 bits is eight pieces of 16 bits, in hexadecimal with colons between
them.  Two colons together stand for zero pieces, and a dotted address may end it.  Its
normal form writes the longest run of two or more zero pieces, the first of the longest,
as two colons.
-/
import HttpGet.Text.Hex
import HttpGet.Text.Split

namespace HttpGet

/-- An address of 32 bits. -/
abbrev Ipv4 := UInt32

/-- An address of 128 bits, as its pieces of 16 bits. -/
abbrev Ipv6 := { pieces : List UInt16 // pieces.length = 8 }

/-- The value of a digit in a base up to sixteen. -/
def digitIn? (base : Nat) (c : Char) : Option Nat := (hexValue? c).filter (· < base)

/-- The number that digits of a base spell; no digits spell zero. -/
def numberIn? (base : Nat) (digits : List Char) : Option Nat :=
  digits.foldl (fun acc c => acc.bind fun n => (digitIn? base c).map (n * base + ·)) (some 0)

namespace Ipv4

/-- A number of a dotted address: hexadecimal after `0x`, octal after another zero,
decimal otherwise. -/
def number? : List Char → Option Nat
  | [] => none
  | '0' :: 'x' :: digits => numberIn? 16 digits
  | '0' :: 'X' :: digits => numberIn? 16 digits
  | '0' :: c :: digits => numberIn? 8 (c :: digits)
  | digits => numberIn? 10 digits

/-- Whether a host has to be a dotted address: its last part, a final dot aside, is a
number or consists of digits. -/
def endsInNumber (host : List Char) : Bool :=
  let final? := match (splitWhere (· = '.') host).reverse with
    | [] :: part :: _ => some part
    | [] :: _ => none
    | part :: _ => some part
    | [] => none
  match final? with
  | none => false
  | some part => (!part.isEmpty && part.all Char.isDigit) || (number? part).isSome

/-- The address of numbers: bytes, and a last number that fills the rest. -/
def ofNumbers? (numbers : List Nat) : Option Ipv4 :=
  match numbers.reverse with
  | [] => none
  | last :: bytes =>
    let room := Nat.pow 256 (4 - bytes.length)
    if bytes.length ≤ 3 ∧ last < room ∧ bytes.all (· < 256) then
      some (UInt32.ofNat (bytes.reverse.foldl (· * 256 + ·) 0 * room + last))
    else none

/-- The address that a host spells. -/
def ofHost? (host : List Char) : Option Ipv4 := do
  let parts := splitWhere (· = '.') host
  let parts := if parts.getLast? = some [] then parts.dropLast else parts
  ofNumbers? (← parts.mapM number?)

/-- The bytes of an address. -/
def bytes (a : Ipv4) : List Nat :=
  let n := a.toNat
  [n / 0x1000000, n / 0x10000 % 256, n / 0x100 % 256, n % 256]

/-- The normal form of an address. -/
def write (a : Ipv4) : List Char := joinWith ['.'] (a.bytes.map (Nat.toDigits 10))

end Ipv4

namespace Ipv6

/-- A piece: one to four hexadecimal digits. -/
def piece? (s : List Char) : Option UInt16 :=
  if s.isEmpty || 4 < s.length then none else (numberIn? 16 s).map UInt16.ofNat

/-- A decimal byte without leading zeros. -/
def byte? (s : List Char) : Option Nat :=
  match s with
  | [] => none
  | '0' :: _ :: _ => none
  | s => (numberIn? 10 s).filter (· < 256)

/-- The two pieces that a dotted address stands for. -/
def dotted? (s : List Char) : Option (List UInt16) := do
  match ← (splitWhere (· = '.') s).mapM byte? with
  | [a, b, c, d] => some [UInt16.ofNat (a * 256 + b), UInt16.ofNat (c * 256 + d)]
  | _ => none

/-- Pieces with colons between them; the last may be a dotted address. -/
def pieces? : List (List Char) → Option (List UInt16)
  | [] => some []
  | [s] => if s.contains '.' then dotted? s else (piece? s).map ([·])
  | s :: rest => do return (← piece? s) :: (← pieces? rest)

/-- The pieces of one side of two colons, which may be none. -/
def side? (s : List Char) : Option (List UInt16) :=
  if s.isEmpty then some [] else pieces? (splitWhere (· = ':') s)

/-- What stands before and after the first two colons in a row. -/
def cutAtGap : List Char → Option (List Char × List Char)
  | ':' :: ':' :: rest => some ([], rest)
  | c :: rest => (cutAtGap rest).map fun p => (c :: p.1, p.2)
  | [] => none

/-- The address of a list of pieces. -/
def ofPieces? (pieces : List UInt16) : Option Ipv6 :=
  if h : pieces.length = 8 then some ⟨pieces, h⟩ else none

/-- The address that a text spells. -/
def ofText? (s : List Char) : Option Ipv6 :=
  match cutAtGap s with
  | none => (pieces? (splitWhere (· = ':') s)).bind ofPieces?
  | some (before, after) => do
    if before.contains '.' then none
    let front ← side? before
    let back ← side? after
    if front.length + back.length ≤ 7 then
      ofPieces? (front ++ List.replicate (8 - front.length - back.length) 0 ++ back)
    else none

/-- The number of zeros that begin a list. -/
def leadingZeros (pieces : List UInt16) : Nat := (pieces.takeWhile (· = 0)).length

/-- The longest run of zeros, the first of the longest: how many pieces stand before it,
and its length. -/
def longestGap : List UInt16 → Nat × Nat
  | [] => (0, 0)
  | p :: rest =>
    let here := leadingZeros (p :: rest)
    let (start, length) := longestGap rest
    if length ≤ here then (0, here) else (start + 1, length)

/-- Pieces in hexadecimal with colons between them. -/
def writePieces (pieces : List UInt16) : List Char :=
  joinWith [':'] (pieces.map fun p => hexDigits p.toNat)

/-- The normal form of an address. -/
def write (a : Ipv6) : List Char :=
  let (start, length) := longestGap a.val
  if length < 2 then writePieces a.val
  else writePieces (a.val.take start) ++ [':', ':'] ++ writePieces (a.val.drop (start + length))

end Ipv6
end HttpGet
