/-
The grammar of JSON texts.

A `Derivation` says how a text is made of the productions of the grammar, down to its
characters: which blanks stand between the tokens, which letters spell a number, and
which of its spellings each character of a string has.  `chars` is the text that is
derived, `depth` says how deep lists and objects nest in it, and `Denotes` which value it
stands for.  Nothing here reads a text: a text is JSON because somebody can say how it is
made, and the parser is measured against that.

What cannot be derived at all is kept out by the types.  A `Gap` holds blanks only, a
`NumberLiteral` has no leading zero, and a surrogate comes only as the first or the second
half of a `Piece.pair`.

The number that a literal stands for is not the nearest one.  Its digits go into a
significand of 64 bits as long as they fit (`Kept`), and a power of ten scales the result
(`Scaled`); a literal whose scaled value is too large stands for nothing.
-/
import Mathlib.Data.List.Forall2
import HttpGet.Json.Number
import HttpGet.Text.Hex
import HttpGet.Text.Split

namespace HttpGet.Json

/-! ### White space -/

/-- Blanks between two tokens. -/
structure Gap where
  chars : List Char
  blank : ∀ c ∈ chars, c = ' ' ∨ c = '\t' ∨ c = '\n' ∨ c = '\r'

/-- A part of a text with the blanks around it. -/
structure Padded (α : Type) where
  before : Gap
  core : α
  after : Gap

/-- The characters of a part with the blanks around it. -/
def Padded.chars {α : Type} (write : α → List Char) (p : Padded α) : List Char :=
  p.before.chars ++ write p.core ++ p.after.chars

theorem Padded.sizeOf_core_lt {α : Type} [SizeOf α] (p : Padded α) : sizeOf p.core < sizeOf p := by
  cases p
  simp only [mk.sizeOf_spec]
  omega

/-! ### Strings -/

/-- Four hexadecimal digits, and the number that they spell. -/
structure CodeUnit where
  digits : List Char
  four : digits.length = 4
  value : Nat
  spelled : hexNumber? digits = some value

/-- The letters that stand for a character after a backslash. -/
def shortEscapes : List (Char × Char) :=
  [('"', '"'), ('\\', '\\'), ('/', '/'), ('b', '\x08'), ('f', '\x0c'), ('n', '\n'), ('r', '\r'),
    ('t', '\t')]

/-- A way to write one character of a string: as it is, by a letter after a backslash, by
its code, or by the codes of a high and a low surrogate, one right after the other. -/
inductive Piece where
  | plain (c : Char) (h : 0x20 ≤ c.toNat ∧ c ≠ '"' ∧ c ≠ '\\')
  | letter (l c : Char) (h : (l, c) ∈ shortEscapes)
  | unit (u : CodeUnit) (h : u.value < 0xD800 ∨ 0xDFFF < u.value)
  | pair (high low : CodeUnit) (hh : 0xD800 ≤ high.value ∧ high.value ≤ 0xDBFF)
      (hl : 0xDC00 ≤ low.value ∧ low.value ≤ 0xDFFF)

namespace Piece

/-- The characters that are written. -/
def chars : Piece → List Char
  | plain c _ => [c]
  | letter l _ _ => ['\\', l]
  | unit u _ => '\\' :: 'u' :: u.digits
  | pair high low _ _ => '\\' :: 'u' :: high.digits ++ '\\' :: 'u' :: low.digits

/-- The character that is meant. -/
def char : Piece → Char
  | plain c _ => c
  | letter _ c _ => c
  | unit u _ => Char.ofNat u.value
  | pair high low _ _ => Char.ofNat (0x10000 + (high.value - 0xD800) * 0x400 + (low.value - 0xDC00))

end Piece

/-- The characters of a string literal. -/
def literal (ps : List Piece) : List Char := '"' :: ps.flatMap Piece.chars ++ ['"']

/-- The string that a literal stands for. -/
def unescaped (ps : List Piece) : String := String.ofList (ps.map Piece.char)

/-! ### Number literals -/

/-- A run of decimal digits. -/
structure Digits where
  chars : List Char
  nonempty : chars ≠ []
  digit : ∀ c ∈ chars, c.isDigit = true

/-- The sign of an exponent. -/
inductive Sign where
  | absent
  | plus
  | minus
deriving DecidableEq

/-- The characters of the sign of an exponent. -/
def Sign.chars : Sign → List Char
  | absent => []
  | plus => ['+']
  | minus => ['-']

/-- An exponent: its letter, its sign and its digits. -/
structure ExponentLiteral where
  letter : Char
  isLetter : letter = 'e' ∨ letter = 'E'
  sign : Sign
  digits : Digits

/-- The characters of an exponent. -/
def ExponentLiteral.chars (e : ExponentLiteral) : List Char :=
  e.letter :: e.sign.chars ++ e.digits.chars

/-- A number literal.  Its whole part begins with a zero only if it is that zero. -/
structure NumberLiteral where
  negative : Bool
  whole : Digits
  noLeadingZero : ∀ rest, whole.chars = '0' :: rest → rest = []
  fraction : Option Digits
  exponent : Option ExponentLiteral

namespace NumberLiteral

/-- The characters of a fraction, if there is one. -/
def fractionChars : Option Digits → List Char
  | none => []
  | some digits => '.' :: digits.chars

/-- The characters of an exponent, if there is one. -/
def exponentChars : Option ExponentLiteral → List Char
  | none => []
  | some e => e.chars

/-- The characters of a number literal. -/
def chars (n : NumberLiteral) : List Char :=
  (if n.negative then ['-'] else []) ++ n.whole.chars ++ fractionChars n.fraction ++
    exponentChars n.exponent

/-- The parts of a number literal that its value depends on. -/
def numeral (n : NumberLiteral) : Numeral where
  negative := n.negative
  whole := n.whole.chars
  fraction := n.fraction.map Digits.chars
  exponent := n.exponent.map fun e => (e.sign == .minus, e.digits.chars)

end NumberLiteral

/-! ### The number of a literal -/

/-- The number that decimal digits spell. -/
def decimal (digits : List Char) : Nat := digits.foldl (fun n c => n * 10 + digitValue c) 0

/-- Of `digits`, those in `kept` go into the significand that `start` began: the longest
first part that keeps it below `2 ^ 64`. -/
structure Kept (start digits kept : List Char) : Prop where
  isFirstPart : kept <+: digits
  fits : decimal (start ++ kept) < 0x10000000000000000
  longest : ∀ more, more <+: digits → decimal (start ++ more) < 0x10000000000000000 →
    more.length ≤ kept.length

/-- The magnitude of a significand, a place of the decimal point and a written exponent,
which is added to the place.  An exponent that does not fit 31 bits is not added: the
magnitude is then zero if the significand is or the exponent is negative, and none
otherwise. -/
inductive Scaled (significand : Nat) (place : Int) :
    Option (Bool × List Char) → Magnitude → Prop
  | plain {m : Magnitude} (h : scaled significand place = some m) : Scaled significand place none m
  | raised {digits : List Char} {m : Magnitude} (small : decimal digits < 0x80000000)
      (h : scaled significand (place + decimal digits) = some m) :
      Scaled significand place (some (false, digits)) m
  | lowered {digits : List Char} {m : Magnitude} (small : decimal digits < 0x80000000)
      (h : scaled significand (place - decimal digits) = some m) :
      Scaled significand place (some (true, digits)) m
  | vanished {negative : Bool} {digits : List Char} (large : 0x80000000 ≤ decimal digits)
      (h : significand = 0 ∨ negative = true) :
      Scaled significand place (some (negative, digits)) .zero

namespace Numeral

/-- The whole part with its sign. -/
def signed (n : Numeral) : Int := if n.negative then -(decimal n.whole : Int) else decimal n.whole

/-- A literal is kept as an integer if it has digits only, if 64 bits hold it, and if it is
not minus zero. -/
structure IsInteger (n : Numeral) : Prop where
  noFraction : n.fraction = none
  noExponent : n.exponent = none
  lower : -0x8000000000000000 ≤ n.signed
  upper : n.signed < 0x10000000000000000
  notMinusZero : n.negative = true → n.signed ≠ 0

/-- The number that a literal stands for, if it is not too large.  Digits of the whole part
that are not kept move the decimal point to the right, and digits of the fraction that are
kept move it to the left. -/
inductive Denotes (n : Numeral) : Number → Prop
  | integer {i : ExactInt} (h : n.IsInteger) (value : i.val = n.signed) : Denotes n (.integer i)
  | real {whole fraction : List Char} {m : Magnitude} (h : ¬ n.IsInteger)
      (hw : Kept [] n.whole whole) (hf : Kept whole (n.fraction.getD []) fraction)
      (value : Scaled (decimal (whole ++ fraction))
        ((n.whole.length : Int) - whole.length - fraction.length) n.exponent m) :
      Denotes n (.real ⟨n.negative, m⟩)

end Numeral

/-! ### Values -/

/-- How a value is written.  The gap of a list or an object stands after its opening
bracket, so that an empty one can hold blanks. -/
inductive Derivation where
  | null
  | flag (b : Bool)
  | number (n : NumberLiteral)
  | text (ps : List Piece)
  | array (gap : Gap) (items : List (Padded Derivation))
  | object (gap : Gap) (members : List (Padded (List Piece) × Padded Derivation))

/-- A member is the last of its key: none after it has the same. -/
def IsLast (members : List (String × Json)) (m : String × Json) : Prop :=
  ∃ before after, members = before ++ m :: after ∧ ∀ m' ∈ after, m'.1 ≠ m.1

/-- The members of the object that a list of members stands for: those that are the last of
their key, by increasing key. -/
structure ObjectOf (members ms : List (String × Json)) : Prop where
  increasing : keysIncrease ms
  mem_iff : ∀ m, m ∈ ms ↔ IsLast members m

namespace Derivation

/-- The text that is derived. -/
def chars : Derivation → List Char
  | null => "null".toList
  | flag b => if b then "true".toList else "false".toList
  | number n => n.chars
  | text ps => literal ps
  | array gap items =>
    '[' :: gap.chars ++
      joinWith [','] (items.map fun i => i.before.chars ++ i.core.chars ++ i.after.chars) ++ [']']
  | object gap members =>
    '{' :: gap.chars ++
      joinWith [','] (members.map fun m => m.1.chars literal ++
        ':' :: (m.2.before.chars ++ m.2.core.chars ++ m.2.after.chars)) ++ ['}']
termination_by d => sizeOf d
decreasing_by
  · rename_i h
    have hi := List.sizeOf_lt_of_mem h
    have hc := i.sizeOf_core_lt
    simp only [array.sizeOf_spec]
    omega
  · rename_i h
    have hm := List.sizeOf_lt_of_mem h
    have hc := m.2.sizeOf_core_lt
    obtain ⟨key, value⟩ := m
    simp only [object.sizeOf_spec, Prod.mk.sizeOf_spec] at *
    omega

/-- How deep lists and objects nest. -/
def depth : Derivation → Nat
  | null => 0
  | flag _ => 0
  | number _ => 0
  | text _ => 0
  | array _ items => (items.map fun i => i.core.depth).foldr max 0 + 1
  | object _ members => (members.map fun m => m.2.core.depth).foldr max 0 + 1
termination_by d => sizeOf d
decreasing_by
  · rename_i h
    have hi := List.sizeOf_lt_of_mem h
    have hc := i.sizeOf_core_lt
    simp only [array.sizeOf_spec]
    omega
  · rename_i h
    have hm := List.sizeOf_lt_of_mem h
    have hc := m.2.sizeOf_core_lt
    obtain ⟨key, value⟩ := m
    simp only [object.sizeOf_spec, Prod.mk.sizeOf_spec] at *
    omega

/-- The value that a derivation stands for.  Of several members with one key the last
counts. -/
inductive Denotes : Derivation → Json → Prop
  | null : Denotes .null .null
  | flag (b : Bool) : Denotes (.flag b) (.flag b)
  | number {n : NumberLiteral} {x : Number} (h : n.numeral.Denotes x) :
      Denotes (.number n) (.number x)
  | text (ps : List Piece) : Denotes (.text ps) (.text (unescaped ps))
  | array {gap : Gap} {items : List (Padded Derivation)} {vs : List Json}
      (h : List.Forall₂ Denotes (items.map Padded.core) vs) : Denotes (.array gap items) (.array vs)
  | object {gap : Gap} {members : List (Padded (List Piece) × Padded Derivation)}
      {values ms : List (String × Json)}
      (keys : values.map Prod.fst = members.map fun m => unescaped m.1.core)
      (h : List.Forall₂ Denotes (members.map fun m => m.2.core) (values.map Prod.snd))
      (last : ObjectOf values ms) : Denotes (.object gap members) (.object ms)

end Derivation

/-- A text spells a value: it is a derivation of the value with blanks around it, in which
lists and objects nest at most 127 deep. -/
def Spells (text : String) (v : Json) : Prop :=
  ∃ d : Padded Derivation,
    text.toList = d.chars Derivation.chars ∧ d.core.depth ≤ 127 ∧ d.core.Denotes v

end HttpGet.Json
