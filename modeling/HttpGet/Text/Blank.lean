/-
Blank characters.

The characters with the Unicode property White_Space, the texts made of nothing else, and
what is left of a text without those at its ends.  JSON and TOML have smaller classes of
their own; this one decides whether a URI was given at all.
-/

namespace HttpGet

/-- The Unicode property White_Space. -/
def isBlank (c : Char) : Bool :=
  let n := c.toNat
  (0x9 ≤ n && n ≤ 0xD) || n = 0x20 || n = 0x85 || n = 0xA0 || n = 0x1680 ||
    (0x2000 ≤ n && n ≤ 0x200A) || n = 0x2028 || n = 0x2029 || n = 0x202F || n = 0x205F ||
    n = 0x3000

/-- A text that is empty or only white space. -/
def isBlankText (text : String) : Bool := text.toList.all isBlank

/-- A text without the blank characters at its ends. -/
def trimBlank (s : List Char) : List Char :=
  ((s.dropWhile isBlank).reverse.dropWhile isBlank).reverse

example : isBlankText "" = true ∧ isBlankText "\u2003\t\u3000" = true ∧
    isBlankText "\u200B" = false ∧ isBlankText " a " = false := by decide +kernel

end HttpGet
