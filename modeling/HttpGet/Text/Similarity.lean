/-
How similar two words are.

Characters match if they are equal and not too far apart; the similarity is the mean of
the share of the first word that is matched, that of the second, and the share of matches
that come in the same order.  The shares, their sums and the mean are each rounded to a
binary floating point number, so that a similarity may come out a little above or below
the exact mean.
-/
import HttpGet.Decimal.Binary64

namespace HttpGet.Similarity

/-- The rounded share that `part` is of `whole`. -/
def share (part whole : Nat) : Magnitude := (Magnitude.nearest? part whole).getD .zero

/-- The rounded mean of three shares. -/
def mean (a b c : Magnitude) : Magnitude :=
  (((a.add? b).bind (·.add? c)).bind (·.div? (share 3 1))).getD .zero

/-- Find the first character of a word that is equal to `c`, is not taken, and lies within
`low` and `high`; `place` is the place of the word's beginning.  What is left has it
taken. -/
def take? (c : Char) (low high : Nat) : (place : Nat) → List (Char × Bool) →
    Option (List (Char × Bool))
  | _, [] => none
  | place, (d, taken) :: rest =>
    if low ≤ place && place < high && c = d && !taken then some ((d, true) :: rest)
    else (take? c low high (place + 1) rest).map ((d, taken) :: ·)

/-- Match the characters of a word, from left to right, with those of another; the matched
ones of the first, and the other with the taken ones marked. -/
def matched (range : Nat) : (place : Nat) → List Char → List (Char × Bool) →
    List Char × List (Char × Bool)
  | _, [], word => ([], word)
  | place, c :: rest, word =>
    match take? c (place - range) (place + range + 1) 0 word with
    | some word =>
      let (found, word) := matched range (place + 1) rest word
      (c :: found, word)
    | none => matched range (place + 1) rest word

/-- The similarity of two words, from zero to one. -/
def ofWords (a b : List Char) : Magnitude :=
  let range := max a.length b.length / 2 - 1
  let (inA, marked) := matched range 0 a (b.map (·, false))
  let inB := (marked.filter (·.2)).map (·.1)
  let moved := ((inA.zip inB).countP fun p => p.1 ≠ p.2) / 2
  let m := inA.length
  if m = 0 then (if a.isEmpty && b.isEmpty then share 1 1 else share 0 1)
  else mean (share m a.length) (share m b.length) (share (m - moved) m)

end HttpGet.Similarity
