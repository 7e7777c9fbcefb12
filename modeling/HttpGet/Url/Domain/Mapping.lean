/-
The mapping of host names.

A name is mapped before it is used, so that names that look alike to a reader are one
name: capitals become small letters, special shapes become plain ones, and characters
without a meaning of their own are left out.  Some characters may not stand in a name at
all: what is neither a visible character nor a mark, characters that would bring a space
or a dot of an abbreviation into the name, and the signs that describe ideographs.

The ranges are those of the mapping of domain names, version 17, in increasing order.
-/
import HttpGet.Text.Mark
import HttpGet.Text.NormalForm
import HttpGet.Text.Visible
import HttpGet.Url.Domain.Joining
import HttpGet.Url.Domain.Letters
import HttpGet.Url.Domain.Sequences

namespace HttpGet.Domain

/-- The characters that are left out of a name. -/
def ignoredRanges : List (Nat × Nat) := [
  (0xAD, 0xAD), (0x34F, 0x34F), (0x115F, 0x1160), (0x17B4, 0x17B5), (0x180B, 0x180F),
  (0x200B, 0x200B), (0x2060, 0x2064), (0x206A, 0x206F), (0x3164, 0x3164), (0xFE00, 0xFE0F),
  (0xFEFF, 0xFEFF), (0xFFA0, 0xFFA0), (0x1BCA0, 0x1BCA3), (0x1D173, 0x1D17A), (0xE0100, 0xE01EF)]

/-- The visible characters that may not stand in a name. -/
def refusedRanges : List (Nat × Nat) := [
  (0xA8, 0xA8), (0xAF, 0xAF), (0xB4, 0xB4), (0xB8, 0xB8), (0x2D8, 0x2DD), (0x37A, 0x37A),
  (0x384, 0x385), (0x1FBD, 0x1FBD), (0x1FBF, 0x1FC1), (0x1FCD, 0x1FCF), (0x1FDD, 0x1FDF),
  (0x1FED, 0x1FEE), (0x1FFD, 0x1FFE), (0x2017, 0x2017), (0x2024, 0x2026), (0x203E, 0x203E),
  (0x2488, 0x249B), (0x2FF0, 0x2FFF), (0x309B, 0x309C), (0x31EF, 0x31EF), (0x33C2, 0x33C2),
  (0x33C7, 0x33C7), (0x33D8, 0x33D8), (0xFC5E, 0xFC63), (0xFDFA, 0xFDFB), (0xFE12, 0xFE12),
  (0xFE19, 0xFE19), (0xFE30, 0xFE30), (0xFE49, 0xFE4C), (0xFE52, 0xFE52), (0xFE70, 0xFE70),
  (0xFE72, 0xFE72), (0xFE74, 0xFE74), (0xFE76, 0xFE76), (0xFE78, 0xFE78), (0xFE7A, 0xFE7A),
  (0xFE7C, 0xFE7C), (0xFE7E, 0xFE7E), (0xFFE3, 0xFFE3), (0xFFFC, 0xFFFD), (0x1F100, 0x1F100)]

/-- Whether a character is left out of a name. -/
def ignored (c : Char) : Bool := 0x80 ≤ c.toNat && inRanges ignoredRanges c.toNat

/-- Whether a character beyond ASCII may not stand in a name. -/
def disallowed (c : Char) : Bool :=
  let n := c.toNat
  0x80 ≤ n && !ignored c && c ≠ nonJoiner && c ≠ joiner &&
    (!(isVisible c || isMark c) || inRanges refusedRanges n)

/-- What a character of a name becomes. -/
def mapChar (c : Char) : List Char :=
  let n := c.toNat
  if n < 0x80 then [c.toLower]
  else if ignored c then []
  else ((letter? n).map ([·])).getD ((sequence? n).getD [c])

/-- The mapped normal form of a name, if all its characters may stand in one. -/
def mapped? (name : List Char) : Option (List Char) :=
  if name.any disallowed then none else some (normalForm (name.flatMap mapChar))

/-- A name in small letters of ASCII is its own mapped form. -/
theorem mapped?_of_small {name : List Char} (ascii : ∀ c ∈ name, c.toNat < 0x80)
    (small : ∀ c ∈ name, c.toLower = c) : mapped? name = some name := by
  have allowed : name.any disallowed = false := by
    rw [List.any_eq_false]
    intro c hc
    have : ¬ 0x80 ≤ c.toNat := Nat.not_le.mpr (ascii c hc)
    simp [disallowed, this]
  have same : ∀ {s : List Char}, (∀ c ∈ s, c ∈ name) → s.flatMap mapChar = s := by
    intro s hs
    induction s with
    | nil => rfl
    | cons c rest ih =>
      have hc : c ∈ name := hs c (by simp)
      have : mapChar c = [c] := by simp [mapChar, ascii c hc, small c hc]
      rw [List.flatMap_cons, this, ih fun d hd => hs d (List.mem_cons_of_mem _ hd)]
      rfl
  unfold mapped?
  rw [allowed, same fun c hc => hc, normalForm_of_lt ascii]
  rfl

example : mapChar 'A' = ['a'] ∧ mapChar '\u00AD' = [] ∧ mapChar '。' = ['.'] ∧
    disallowed '\u00A0' = true ∧ disallowed 'é' = false ∧ disallowed 'A' = false := by
  decide +kernel

end HttpGet.Domain
