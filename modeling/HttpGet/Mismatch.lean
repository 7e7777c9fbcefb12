/-
Values of the wrong shape.

A document can be well formed and still not be what its reader asked for.  `Found` is
what stood there, `Mismatch` how it misses what was expected; both have one wording,
whichever format the document is in.
-/
import HttpGet.Text.Quoted

namespace HttpGet

/-- What a document holds where something else was expected.  A real number comes with
the text its format writes for it; `other` is a phrase of the format's own. -/
inductive Found where
  | flag (b : Bool)
  | integer (n : Int)
  | real (text : String)
  | text (s : String)
  | sequence
  | map
  | other (phrase : String)
deriving DecidableEq, Repr

/-- The phrase for what was found. -/
def Found.phrase : Found → String
  | .flag b => "boolean `" ++ (if b then "true" else "false") ++ "`"
  | .integer n => "integer `" ++ toString n ++ "`"
  | .real t => "floating point `" ++ t ++ "`"
  | .text s => "string " ++ Quoted.encode s
  | .sequence => "sequence"
  | .map => "map"
  | .other phrase => phrase

/-- How a value misses the expected shape: it is of another kind, out of range, a sequence
of the wrong length, or a record without a field or with a field given twice. -/
inductive Mismatch where
  | kind (found : Found) (expected : String)
  | range (found : Found) (expected : String)
  | length (n : Nat) (expected : String)
  | missing (field : String)
  | duplicate (field : String)
deriving DecidableEq, Repr

/-- The wording of a mismatch. -/
def Mismatch.message : Mismatch → String
  | kind found expected => "invalid type: " ++ found.phrase ++ ", expected " ++ expected
  | range found expected => "invalid value: " ++ found.phrase ++ ", expected " ++ expected
  | length n expected => "invalid length " ++ toString n ++ ", expected " ++ expected
  | missing field => "missing field `" ++ field ++ "`"
  | duplicate field => "duplicate field `" ++ field ++ "`"

namespace Mismatch

/-- The phrase for a record of so many fields, given in order. -/
def recordOf (name : String) (fields : Nat) : String :=
  "struct " ++ name ++ " with " ++ toString fields ++
    (if fields = 1 then " element" else " elements")

end Mismatch
end HttpGet
