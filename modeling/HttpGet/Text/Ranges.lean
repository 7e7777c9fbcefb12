/-
Sets of characters as ranges of code points.

A property of characters that only a table can tell is a list of ranges, each with its
first and its last code point.  What characters become is told by rows in increasing
order: a row begins with a code point, and gives one result for it and for each of the
code points that follow.
-/

namespace HttpGet

/-- Whether `n` lies in one of the ranges. -/
def inRanges (ranges : List (Nat × Nat)) (n : Nat) : Bool :=
  ranges.any fun r => r.1 ≤ n && n ≤ r.2

/-- The last row that begins at or before `n`. -/
def rowAt? {α : Type} (rows : List (Nat × α)) (n : Nat) : Option (Nat × α) :=
  (rows.takeWhile (·.1 ≤ n)).getLast?

/-- The character that rows of characters give for `n`. -/
def charAt? (rows : List (Nat × String)) (n : Nat) : Option Char :=
  (rowAt? rows n).bind fun row => row.2.toList[n - row.1]?

/-- The text that rows of texts give for `n`. -/
def textAt? (rows : List (Nat × List String)) (n : Nat) : Option (List Char) :=
  (rowAt? rows n).bind fun row => row.2[n - row.1]?.map String.toList

end HttpGet
