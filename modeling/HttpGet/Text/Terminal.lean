/-
What a terminal shows.

A text may hold bytes that command a terminal and are not shown by it: controls, and the
sequences that an escape begins, which set colours, move the cursor or name the window.
`shown` is a text without them.  White space of ASCII is kept, and a byte that continues a
character is always shown, wherever it stands; each byte that is shown ends the sequence
around it, so that text of plain characters is shown as it is.
-/
import HttpGet.Text.Utf8

namespace HttpGet.Terminal

/-- What the next byte belongs to. -/
inductive Mode where
  /-- Text. -/
  | plain
  /-- A sequence that has just been begun by an escape. -/
  | escape
  /-- An escape with intermediate bytes, which ends with any letter, digit or mark. -/
  | intermediate
  /-- A control sequence: parameters, and a letter at the end. -/
  | control
  /-- A command of the operating system, which a bell ends. -/
  | command
  /-- A string that only another escape, a cancellation or a substitution ends. -/
  | string
deriving DecidableEq, Repr

/-- The white space of ASCII that a terminal acts on. -/
def isSpace (b : UInt8) : Bool := b = 0x20 || b = 0x09 || b = 0x0A || b = 0x0C || b = 0x0D

/-- Whether a byte continues a character. -/
def isContinuation (b : UInt8) : Bool := 0x80 ≤ b && b ≤ 0xBF

/-- Whether a byte begins a character of more than one byte. -/
def isLead (b : UInt8) : Bool := 0xC2 ≤ b && b ≤ 0xF4

/-- Whether a byte is shown. -/
def shows (mode : Mode) (b : UInt8) : Bool :=
  isContinuation b ||
    match mode with
    | .plain => (0x20 ≤ b && b < 0x7F) || isSpace b || isLead b
    | .escape | .intermediate | .control => b < 0x20 && isSpace b
    | .command | .string => false

/-- What follows a byte that is not shown. -/
def after (mode : Mode) (b : UInt8) : Mode :=
  if b = 0x1B then .escape
  else if b = 0x18 || b = 0x1A then .plain
  else match mode with
    | .plain => .plain
    | .escape =>
      if b = 0x5B then .control
      else if b = 0x5D then .command
      else if b = 0x50 || b = 0x58 || b = 0x5E || b = 0x5F then .string
      else if 0x20 ≤ b && b ≤ 0x2F then .intermediate
      else if 0x30 ≤ b && b ≤ 0x7E then .plain
      else .escape
    | .intermediate => if 0x30 ≤ b && b ≤ 0x7E then .plain else .intermediate
    | .control => if 0x40 ≤ b && b ≤ 0x7E then .plain else .control
    | .command => if b = 0x07 then .plain else .command
    | .string => .string

/-- The bytes that are shown. -/
def shownBytes : Mode → List UInt8 → List UInt8
  | _, [] => []
  | mode, b :: rest =>
    if shows mode b then b :: shownBytes .plain rest else shownBytes (after mode b) rest

/-- A text as a terminal shows it. -/
def shown (text : String) : String := Utf8.decodeLossy (shownBytes .plain (Utf8.encode text))

example : shown "--\x1b[31mx" = "--x" ∧ shown "a\x1b]0;t\x07b" = "ab" ∧ shown "流\x1b[1m量" = "流量" ∧
    shown "a\x0bb\x0cc" = "ab\x0cc" := by decide +kernel

end HttpGet.Terminal
