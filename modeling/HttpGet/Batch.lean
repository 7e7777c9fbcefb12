/-
Batches of GETs.

The URIs of a batch are asked for one after the other, each exactly once and whatever the
others come to.  The exit code of a batch is the highest of its errors, and zero if there
are none.
-/
import HttpGet.GetError

namespace HttpGet

/-- Issue one GET and settle what it brings. -/
def Transport.fetch {σ : Type} (t : Transport σ GetError) (s : σ) (uri : String) :
    Settlement × σ :=
  match t.get s uri with
  | (.ok response, s) => (response.settle, s)
  | (.error e, s) => (.error e, s)

/-- What the URIs of a batch have come to, in order. -/
abbrev Batch := List (String × Settlement)

/-- Issue a GET for each URI, in order. -/
def Transport.fetchAll {σ : Type} (t : Transport σ GetError) (s : σ) : List String → Batch × σ
  | [] => ([], s)
  | uri :: uris =>
    let (result, s) := t.fetch s uri
    let (results, s) := t.fetchAll s uris
    ((uri, result) :: results, s)

namespace Batch

/-- The exit code of one settlement. -/
def codeOf : Settlement → Nat
  | .ok _ => 0
  | .error e => e.exitCode

/-- The exit code of a batch. -/
def exitCode (b : Batch) : Nat := (b.map fun r => codeOf r.2).foldr max 0

@[simp] theorem exitCode_nil : exitCode [] = 0 := rfl

@[simp] theorem exitCode_cons (r : String × Settlement) (b : Batch) :
    exitCode (r :: b) = max (codeOf r.2) (exitCode b) := rfl

/-- The exit code of two batches is the higher one. -/
theorem exitCode_append (a b : Batch) : exitCode (a ++ b) = max (exitCode a) (exitCode b) := by
  induction a with
  | nil => simp
  | cons r a ih => simp only [List.cons_append, exitCode_cons, ih, Nat.max_assoc]

end Batch

/-! ### What a batch asks for -/

namespace Transport

variable {σ : Type} (t : Transport σ GetError)

/-- A batch of two lists is the batch of the second after the batch of the first. -/
theorem fetchAll_append (s : σ) (us vs : List String) :
    t.fetchAll s (us ++ vs) =
      ((t.fetchAll s us).1 ++ (t.fetchAll (t.fetchAll s us).2 vs).1,
        (t.fetchAll (t.fetchAll s us).2 vs).2) := by
  induction us generalizing s with
  | nil => rfl
  | cons uri us ih => simp [fetchAll, ih]

end Transport
end HttpGet
