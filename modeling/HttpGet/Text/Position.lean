/-
Places in a text.

A message about a text says where: lines are counted from one, columns in bytes of
the UTF-8 encoding, and the column just after a line feed is zero.  `Position.atOffset`
finds the place that many bytes into a text; an offset may fall inside a character,
since a reader that looks at one byte of a character has not read it.
-/

namespace HttpGet

/-- A place in a text: the line, from one, and the bytes before it on that line. -/
structure Position where
  line : Nat
  column : Nat
deriving DecidableEq, Repr

namespace Position

/-- The beginning of a text. -/
def start : Position := ⟨1, 0⟩

/-- The place after reading `c`: a line feed begins a line, any other character
advances by its bytes. -/
def after (p : Position) (c : Char) : Position :=
  if c = '\n' then ⟨p.line + 1, 0⟩ else ⟨p.line, p.column + c.utf8Size⟩

/-- The end of a text. -/
def ofText (text : List Char) : Position := text.foldl after start

/-- The place `offset` bytes after `p` in a text that begins at `p`. -/
def advance (p : Position) : List Char → Nat → Position
  | [], _ => p
  | c :: rest, offset =>
    if offset = 0 then p
    else if offset < c.utf8Size then ⟨p.line, p.column + offset⟩
    else advance (p.after c) rest (offset - c.utf8Size)

/-- The place `offset` bytes into a text. -/
def atOffset (text : List Char) (offset : Nat) : Position := advance start text offset

/-- The number of bytes of a text. -/
def bytes : List Char → Nat
  | [] => 0
  | c :: rest => c.utf8Size + bytes rest

@[simp] theorem bytes_nil : bytes [] = 0 := rfl

@[simp] theorem bytes_cons (c : Char) (rest : List Char) :
    bytes (c :: rest) = c.utf8Size + bytes rest := rfl

@[simp] theorem bytes_append (a b : List Char) : bytes (a ++ b) = bytes a + bytes b := by
  induction a with
  | nil => simp
  | cons c rest ih => simp [ih, Nat.add_assoc]

/-- The two parts of a text at an offset in bytes, if it lies between two characters. -/
def splitAt? : List Char → Nat → Option (List Char × List Char)
  | text, 0 => some ([], text)
  | [], _ + 1 => none
  | c :: rest, offset + 1 =>
    if c.utf8Size ≤ offset + 1 then
      (splitAt? rest (offset + 1 - c.utf8Size)).map fun parts => (c :: parts.1, parts.2)
    else none

/-- The part of a text between two offsets, if both lie between characters. -/
def slice? (text : List Char) (start stop : Nat) : Option (List Char) := do
  let (front, _) ← splitAt? text stop
  let (_, part) ← splitAt? front start
  return part

/-- Advancing by all the bytes of the first part of a text is reading that part. -/
theorem advance_append (p : Position) (a b : List Char) :
    advance p (a ++ b) (bytes a) = a.foldl after p := by
  induction a generalizing p with
  | nil => cases b <;> simp [advance]
  | cons c rest ih =>
    have hpos := c.utf8Size_pos
    have hne : ¬ c.utf8Size + bytes rest = 0 := by omega
    have hlt : ¬ c.utf8Size + bytes rest < c.utf8Size := by omega
    simp only [List.cons_append, bytes_cons, advance, if_neg hne, if_neg hlt,
      Nat.add_sub_cancel_left, ih, List.foldl_cons]

/-- The place after the first part of a text is the end of that part. -/
theorem atOffset_append (a b : List Char) : atOffset (a ++ b) (bytes a) = ofText a :=
  advance_append start a b

end Position
end HttpGet
