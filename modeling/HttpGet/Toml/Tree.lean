/-
TOML values.

A document is a tree of tables, arrays and scalars.  Every node keeps its span, so that a
value of the wrong shape can be shown where it stands.  A span counts the characters that
were left to read at its two ends, which is what a reader of the text knows.

Numbers keep the value that the text spells: an integer of any size, if it spells one, a
real number rounded to 64 bits or marked as too large.
-/
import HttpGet.Decimal.Shortest
import HttpGet.Mismatch

namespace HttpGet.Toml

/-- A part of a text, by the number of characters that follow its beginning and its
end. -/
structure Span where
  fromLeft : Nat
  toLeft : Nat
deriving DecidableEq, Repr, Inhabited

/-- The span of what was read between two rests of a text. -/
def Span.between (before after : List Char) : Span := ⟨before.length, after.length⟩

/-- A real number: finite, infinite, not a number, or a literal beyond the finite range. -/
inductive Real where
  | finite (x : Binary64)
  | infinite (negative : Bool)
  | nan
  | tooLarge
deriving DecidableEq, Repr

/-- A value without parts.  A word may have the form of an integer and spell none; of a date
or a time only its being one matters. -/
inductive Scalar where
  | text (s : String)
  | integer (n : Option Int)
  | real (x : Real)
  | flag (b : Bool)
  | moment
deriving DecidableEq, Repr

/-- A value: a scalar, a list, or a table that lists its entries by increasing key. -/
inductive Tree where
  | scalar (span : Span) (value : Scalar)
  | array (span : Span) (items : List Tree)
  | table (span : Span) (entries : List (String × Tree))
deriving Repr

instance : Inhabited Tree := ⟨.table default []⟩

mutual

/-- Whether two values are equal can be decided. -/
def Tree.decEq : (t u : Tree) → Decidable (t = u)
  | .scalar span value, .scalar span' value' =>
    decidable_of_iff (span = span' ∧ value = value') (by simp)
  | .array span items, .array span' items' =>
    have := decEqItems items items'
    decidable_of_iff (span = span' ∧ items = items') (by simp)
  | .table span entries, .table span' entries' =>
    have := decEqEntries entries entries'
    decidable_of_iff (span = span' ∧ entries = entries') (by simp)
  | .scalar .., .array .. | .scalar .., .table .. => isFalse nofun
  | .array .., .scalar .. | .array .., .table .. => isFalse nofun
  | .table .., .scalar .. | .table .., .array .. => isFalse nofun

/-- Whether two lists of values are equal can be decided. -/
def Tree.decEqItems : (items items' : List Tree) → Decidable (items = items')
  | [], [] => isTrue rfl
  | [], _ :: _ | _ :: _, [] => isFalse nofun
  | t :: items, t' :: items' =>
    have := t.decEq t'
    have := decEqItems items items'
    decidable_of_iff (t = t' ∧ items = items') (by simp)

/-- Whether two lists of entries are equal can be decided. -/
def Tree.decEqEntries : (entries entries' : List (String × Tree)) → Decidable (entries = entries')
  | [], [] => isTrue rfl
  | [], _ :: _ | _ :: _, [] => isFalse nofun
  | (key, t) :: entries, (key', t') :: entries' =>
    have := t.decEq t'
    have := decEqEntries entries entries'
    decidable_of_iff (key = key' ∧ t = t' ∧ entries = entries') (by simp [and_assoc])

end

instance : DecidableEq Tree := Tree.decEq

/-- Insert an entry into a list that is ordered by key, in front of an equal key. -/
def insertEntry {α : Type} (key : String) (value : α) : List (String × α) → List (String × α)
  | [] => [(key, value)]
  | (k, v) :: rest =>
    if k < key then (k, v) :: insertEntry key value rest else (key, value) :: (k, v) :: rest

/-- A real number is written positionally, whatever its size; of two equally near decimals
the upper one is written. -/
def realLayout : Layout where
  tie := .upper
  positional _ := true

example : (Magnitude.nearest? 1 33554432).map (fun m => realLayout.write ⟨false, m⟩) =
    some "0.000000029802322387695313".toList := by decide +kernel

/-- The text of a real number. -/
def Real.write : Real → String
  | .finite x => String.ofList (realLayout.write x)
  | .infinite negative => if negative then "-inf" else "inf"
  | .nan => "NaN"
  | .tooLarge => ""

/-- What an integer is called, if 128 bits hold it; one that needs more than 64 bits is
called by its width too. -/
def foundInteger? (n : Int) : Option Found :=
  if -0x8000000000000000 ≤ n ∧ n < 0x10000000000000000 then some (.integer n)
  else if -0x80000000000000000000000000000000 ≤ n ∧ n < 0x80000000000000000000000000000000 then
    some (.other ("integer `" ++ toString n ++ "` as i128"))
  else if 0 ≤ n ∧ n < 0x100000000000000000000000000000000 then
    some (.other ("integer `" ++ toString n ++ "` as u128"))
  else none

namespace Tree

/-- The span of a value. -/
def span : Tree → Span
  | scalar s _ => s
  | array s _ => s
  | table s _ => s

/-- What a value is called where something else was expected; nothing for a number that
cannot be read.  A date or a time is seen as a table. -/
def found? : Tree → Option Found
  | scalar _ (.text s) => some (.text s)
  | scalar _ (.integer n) => n.bind foundInteger?
  | scalar _ (.real .tooLarge) => none
  | scalar _ (.real x) => some (.real x.write)
  | scalar _ (.flag b) => some (.flag b)
  | scalar _ .moment => some .map
  | array .. => some .sequence
  | table .. => some .map

mutual

/-- Whether every number of a value can be read. -/
def readable : Tree → Bool
  | scalar _ (.integer n) => (n.bind foundInteger?).isSome
  | scalar _ (.real x) => x ≠ .tooLarge
  | scalar _ _ => true
  | array _ items => readableItems items
  | table _ entries => readableEntries entries
termination_by structural t => t

/-- Whether every number of a list can be read. -/
def readableItems : List Tree → Bool
  | [] => true
  | t :: rest => readable t && readableItems rest
termination_by structural ts => ts

/-- Whether every number of a table can be read. -/
def readableEntries : List (String × Tree) → Bool
  | [] => true
  | e :: rest => readableEntry e && readableEntries rest
termination_by structural es => es

/-- Whether every number of an entry can be read. -/
def readableEntry : String × Tree → Bool
  | (_, t) => readable t
termination_by structural e => e

end

end Tree
end HttpGet.Toml
