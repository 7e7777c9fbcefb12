/-
JSON values.

A number is an integer where 64 bits hold it exactly, and a binary floating point number
otherwise.  An object lists its members by increasing key, each key once: `setMember`
keeps a list so, and `Json.Ordered` says that every object of a value is so.
-/
import HttpGet.Decimal.Binary64

namespace HttpGet

/-- An integer that is kept exactly: a signed or an unsigned 64-bit one. -/
structure ExactInt where
  val : Int
  lower : -0x8000000000000000 ≤ val
  upper : val < 0x10000000000000000
deriving DecidableEq, Repr

namespace ExactInt

/-- The exact integer of a value in range. -/
def ofInt? (n : Int) : Option ExactInt :=
  if h : -0x8000000000000000 ≤ n ∧ n < 0x10000000000000000 then some ⟨n, h.1, h.2⟩ else none

theorem ofInt?_val (n : ExactInt) : ofInt? n.val = some n := by
  rw [ofInt?, dif_pos ⟨n.lower, n.upper⟩]

end ExactInt

namespace Json

/-- A JSON number. -/
inductive Number where
  | integer (n : ExactInt)
  | real (x : Binary64)
deriving DecidableEq, Repr

end Json

/-- A JSON value. -/
inductive Json where
  | null
  | flag (b : Bool)
  | number (n : Json.Number)
  | text (s : String)
  | array (items : List Json)
  | object (members : List (String × Json))
deriving Repr

namespace Json

instance : Inhabited Json := ⟨.null⟩

/-- Set the member `key` of an ordered member list; a member it had is replaced. -/
def setMember (key : String) (value : Json) : List (String × Json) → List (String × Json)
  | [] => [(key, value)]
  | (k, v) :: rest =>
    if key < k then (key, value) :: (k, v) :: rest
    else if key = k then (key, value) :: rest
    else (k, v) :: setMember key value rest

/-- The object of a list of members, in which the last of several equal keys wins. -/
def ofMembers (members : List (String × Json)) : Json :=
  .object (members.foldl (fun ms m => setMember m.1 m.2 ms) [])

/-- Whether keys increase strictly. -/
def keysIncrease (members : List (String × Json)) : Prop :=
  (members.map Prod.fst).Pairwise (· < ·)

/-- Every object of a value lists its members by strictly increasing key. -/
inductive Ordered : Json → Prop
  | null : Ordered .null
  | flag (b : Bool) : Ordered (.flag b)
  | number (n : Number) : Ordered (.number n)
  | text (s : String) : Ordered (.text s)
  | array (items : List Json) (h : ∀ v ∈ items, Ordered v) : Ordered (.array items)
  | object (members : List (String × Json)) (hk : keysIncrease members)
      (h : ∀ m ∈ members, Ordered m.2) : Ordered (.object members)

end Json
end HttpGet
