/-
Typed values of JSON documents.

A `Codec` writes the values of a type as JSON and reads them from JSON; reading says how
a document misses the type's shape.  The codecs here are those of the types a caller may
ask a payload to be; `Target` lists them.

Reading is more liberal than writing: a record may come as the list of its fields in
order, an object may have members a record does not know, and an integer stands for a
real number.
-/
import HttpGet.Json.Printer
import HttpGet.Mismatch

namespace HttpGet

namespace Json

/-- What a JSON value is called where something else was expected. -/
def found : Json → Found
  | .null => .other "null"
  | .flag b => .flag b
  | .number (.integer n) => .integer n.val
  | .number (.real x) => .real (String.ofList (numberLayout.write x))
  | .text s => .text s
  | .array _ => .sequence
  | .object _ => .map

/-- The JSON value of an integer that 64 bits hold; null for any other. -/
def ofInt (n : Int) : Json :=
  match ExactInt.ofInt? n with
  | some n => .number (.integer n)
  | none => .null

end Json

/-- A way to write the values of a type as JSON, and to read them. -/
structure Codec (α : Type) where
  encode : α → Json
  decode : Json → Except Mismatch α

namespace Codec

/-- Any JSON value. -/
def any : Codec Json := ⟨id, .ok⟩

/-- A text. -/
def text : Codec String where
  encode := .text
  decode
    | .text s => .ok s
    | v => .error (.kind v.found "a string")

/-- A truth value. -/
def flag : Codec Bool where
  encode := .flag
  decode
    | .flag b => .ok b
    | v => .error (.kind v.found "a boolean")

/-- The value of the empty type of information, written as null. -/
def unit : Codec Unit where
  encode _ := .null
  decode
    | .null => .ok ()
    | v => .error (.kind v.found "unit")

/-- An integer in the range of a type of integers, of this name. -/
def integer (name : String) (low high : Int) : Codec { n : Int // low ≤ n ∧ n ≤ high } where
  encode n := .ofInt n.val
  decode
    | .number (.integer n) =>
      if h : low ≤ n.val ∧ n.val ≤ high then .ok ⟨n.val, h⟩
      else .error (.range (.integer n.val) name)
    | v => .error (.kind v.found name)

/-- An unsigned integer of 64 bits. -/
abbrev Unsigned64 := { n : Int // 0 ≤ n ∧ n ≤ 0xFFFFFFFFFFFFFFFF }

/-- A signed integer of 64 bits. -/
abbrev Signed64 := { n : Int // -0x8000000000000000 ≤ n ∧ n ≤ 0x7FFFFFFFFFFFFFFF }

/-- A signed integer of 8 bits. -/
abbrev Signed8 := { n : Int // -128 ≤ n ∧ n ≤ 127 }

/-- The codec of unsigned integers of 64 bits. -/
def unsigned64 : Codec Unsigned64 := integer "u64" 0 0xFFFFFFFFFFFFFFFF

/-- The codec of signed integers of 64 bits. -/
def signed64 : Codec Signed64 :=
  integer "i64" (-0x8000000000000000) 0x7FFFFFFFFFFFFFFF

/-- The codec of signed integers of 8 bits. -/
def signed8 : Codec Signed8 := integer "i8" (-128) 127

/-- A real number; an integer is rounded to the nearest one. -/
def real : Codec Binary64 where
  encode x := .number (.real x)
  decode
    | .number (.real x) => .ok x
    | .number (.integer n) => .ok ((Binary64.ofInt? n.val).getD default)
    | v => .error (.kind v.found "f64")

/-- A value that may be absent, which is written as null. -/
def optional {α : Type} (c : Codec α) : Codec (Option α) where
  encode
    | none => .null
    | some x => c.encode x
  decode
    | .null => .ok none
    | v => (c.decode v).map some

/-- A list. -/
def list {α : Type} (c : Codec α) : Codec (List α) where
  encode xs := .array (xs.map c.encode)
  decode
    | .array vs => vs.mapM c.decode
    | v => .error (.kind v.found "a sequence")

/-- Read two values from a list of exactly two; `name` is the phrase for the pair. -/
def decodeTwo {α β : Type} (a : Codec α) (b : Codec β) (name : String) :
    List Json → Except Mismatch (α × β)
  | [] => .error (.length 0 name)
  | [u] => do
    let _ ← a.decode u
    .error (.length 1 name)
  | u :: v :: rest => do
    let x ← a.decode u
    let y ← b.decode v
    if rest.isEmpty then .ok (x, y)
    else .error (.length (rest.length + 2) "fewer elements in array")

/-- A pair, written as a list of two. -/
def pair {α β : Type} (a : Codec α) (b : Codec β) : Codec (α × β) where
  encode p := .array [a.encode p.1, b.encode p.2]
  decode
    | .array vs => decodeTwo a b "a tuple of size 2" vs
    | v => .error (.kind v.found "a tuple of size 2")

/-- A map from texts, as the list of its entries by increasing key. -/
def map {α : Type} (c : Codec α) : Codec (List (String × α)) where
  encode ms := .object (ms.map fun m => (m.1, c.encode m.2))
  decode
    | .object ms => ms.mapM fun m => (c.decode m.2).map (m.1, ·)
    | v => .error (.kind v.found "a map")

end Codec

/-- The traffic of one user. -/
structure Traffic where
  user : String
  upload : Codec.Unsigned64
deriving DecidableEq, Repr

namespace Traffic

/-- The fields read so far from the members of an object. -/
structure Fields where
  user : Option String
  upload : Option Codec.Unsigned64

/-- Read a member, if the record has it. -/
def Fields.read (f : Fields) (m : String × Json) : Except Mismatch Fields :=
  if m.1 = "user" then (Codec.text.decode m.2).map fun s => { f with user := some s }
  else if m.1 = "upload" then
    (Codec.unsigned64.decode m.2).map fun n => { f with upload := some n }
  else .ok f

/-- The record of the fields that were read. -/
def Fields.record (f : Fields) : Except Mismatch Traffic :=
  match f.user, f.upload with
  | some user, some upload => .ok ⟨user, upload⟩
  | none, _ => .error (.missing "user")
  | _, none => .error (.missing "upload")

/-- A record is written as an object; it is read from an object that has its members, or
from the list of its fields. -/
def codec : Codec Traffic where
  encode t := .object [("user", Codec.text.encode t.user),
    ("upload", Codec.unsigned64.encode t.upload)]
  decode
    | .object ms => do (← ms.foldlM Fields.read ⟨none, none⟩).record
    | .array vs =>
      (Codec.decodeTwo Codec.text Codec.unsigned64 (Mismatch.recordOf "Traffic" 2) vs).map
        fun p => ⟨p.1, p.2⟩
    | v => .error (.kind v.found "struct Traffic")

end Traffic

/-- The types that a payload can be asked to be. -/
inductive Target where
  | text
  | unsigned64
  | signed8
  | real
  | flag
  | unit
  | optionalText
  | signed64List
  | pair
  | unsigned64Map
  | traffic
  | traffics
  | any
deriving DecidableEq, Repr

namespace Target

/-- The values of a target. -/
abbrev Carrier : Target → Type
  | text => String
  | unsigned64 => Codec.Unsigned64
  | signed8 => Codec.Signed8
  | real => Binary64
  | flag => Bool
  | unit => Unit
  | optionalText => Option String
  | signed64List => List Codec.Signed64
  | pair => String × Codec.Signed64
  | unsigned64Map => List (String × Codec.Unsigned64)
  | traffic => Traffic
  | traffics => List Traffic
  | any => Json

/-- The codec of a target. -/
def codec : (t : Target) → Codec t.Carrier
  | text => .text
  | unsigned64 => .unsigned64
  | signed8 => .signed8
  | real => .real
  | flag => .flag
  | unit => .unit
  | optionalText => .optional .text
  | signed64List => .list .signed64
  | pair => .pair .text .signed64
  | unsigned64Map => .map .unsigned64
  | traffic => Traffic.codec
  | traffics => .list Traffic.codec
  | any => .any

end Target
end HttpGet
