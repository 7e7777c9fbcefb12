/-
Values whose members stand in any order.

A value that a program puts together lists the members of an object as it likes, and the text
that is written for it keeps that order.  A reader does not: it gives the members by increasing
key, and of several with one key the last.  `inOrder` says what that makes of a value, at all
levels, and what is proved is that the text of a value spells just this.

The induction goes along the value.  At an object the members are derived in the order in which
they are written, so nothing has to be known about their keys; what the derivation stands for
is settled by `ofMembers` alone.
-/
import HttpGet.Proofs.Json.Printing

namespace HttpGet.Json

mutual

/-- A value with the members of its objects by increasing key, the last of several with one
key. -/
def inOrder : Json → Json
  | .null => .null
  | .flag b => .flag b
  | .number x => .number x
  | .text s => .text s
  | .array items => .array (inOrderItems items)
  | .object members => ofMembers (inOrderMembers members)
termination_by structural v => v

/-- The items of a list, in order inside. -/
def inOrderItems : List Json → List Json
  | [] => []
  | v :: vs => inOrder v :: inOrderItems vs
termination_by structural vs => vs

/-- The members of an object, in order inside. -/
def inOrderMembers : List (String × Json) → List (String × Json)
  | [] => []
  | m :: ms => inOrderMember m :: inOrderMembers ms
termination_by structural ms => ms

/-- A member, in order inside. -/
def inOrderMember : String × Json → String × Json
  | (key, v) => (key, inOrder v)
termination_by structural m => m

end

theorem inOrderItems_eq (vs : List Json) : inOrderItems vs = vs.map inOrder := by
  induction vs with
  | nil => rfl
  | cons v vs ih => rw [inOrderItems, ih, List.map_cons]

theorem inOrderMembers_eq (ms : List (String × Json)) :
    inOrderMembers ms = ms.map fun m => (m.1, inOrder m.2) := by
  induction ms with
  | nil => rfl
  | cons m ms ih =>
      rw [inOrderMembers, ih, List.map_cons, inOrderMember]

/-- A value that nests at most `n` deep, and in which no floating point number occurs. -/
inductive Spellable : Nat → Json → Prop
  | null {n : Nat} : Spellable n .null
  | flag {n : Nat} (b : Bool) : Spellable n (.flag b)
  | integer {n : Nat} (i : ExactInt) : Spellable n (.number (.integer i))
  | text {n : Nat} (s : String) : Spellable n (.text s)
  | array {n : Nat} {items : List Json} (h : ∀ v ∈ items, Spellable n v) :
      Spellable (n + 1) (.array items)
  | object {n : Nat} {members : List (String × Json)} (h : ∀ m ∈ members, Spellable n m.2) :
      Spellable (n + 1) (.object members)

/-- The compact form of a value is a text of the value in order. -/
theorem written_inOrder {n : Nat} {v : Json} (h : Spellable n v) :
    Written n v.inOrder (compact v) := by
  induction h with
  | null => exact .null
  | flag b => exact .flag b
  | integer i => exact .integer i
  | text s => exact .text s
  | @array n items _ ih =>
      rw [inOrder, inOrderItems_eq]
      cases items with
      | nil => exact .array_nil
      | cons v vs =>
          obtain ⟨derived, hderived, hchars⟩ := Derivation.exists_array .none .none ih
          refine ⟨.array .none derived, ?_, Within.array (List.forall₂_map_right_iff.mpr hderived)⟩
          rw [hchars, compact, compactItems_eq]
          rfl
  | @object n members _ ih =>
      rw [inOrder, inOrderMembers_eq]
      cases members with
      | nil => exact .object_nil
      | cons m ms =>
          obtain ⟨derived, hderived, hchars⟩ := Derivation.exists_object
            (P := fun d u => Within n d u.inOrder) .none .none .none ih
          have hmembers : List.Forall₂ (MemberOf (Within n)) derived
              ((m :: ms).map fun m => (m.1, inOrder m.2)) := by
            refine List.forall₂_map_right_iff.mpr (hderived.imp ?_)
            intro d kv hd
            exact ⟨hd.key, hd.value⟩
          refine ⟨.object .none derived, ?_, Within.object hmembers (ofMembers_eq_iff.mp rfl)⟩
          rw [hchars, compact, compactMembers_eq, funext compactMember_eq]
          rfl

end HttpGet.Json
