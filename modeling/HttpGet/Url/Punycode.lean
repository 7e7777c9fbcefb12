/-
Punycode.

A label of a host name that has characters beyond ASCII is written in ASCII letters: first
its ASCII characters and a hyphen, then, in increasing order of their code points, where
each other character is inserted, as the distance from the place of the one before.  A
distance is written in base 36 with digits of varying weight, adapted to the distances so
far.  No weight is beyond 32 bits.
-/

namespace HttpGet.Punycode

/-- The letter or digit that writes a digit. -/
def digitChar (d : Nat) : Char :=
  if d < 26 then Char.ofNat ('a'.toNat + d) else Char.ofNat ('0'.toNat + (d - 26))

/-- The digit that a letter or digit writes, in either case. -/
def digitValue? (c : Char) : Option Nat :=
  if 'a' ≤ c ∧ c ≤ 'z' then some (c.toNat - 'a'.toNat)
  else if 'A' ≤ c ∧ c ≤ 'Z' then some (c.toNat - 'A'.toNat)
  else if '0' ≤ c ∧ c ≤ '9' then some (c.toNat - '0'.toNat + 26)
  else none

/-- The least value of a digit at place `k` that another digit follows. -/
def threshold (k bias : Nat) : Nat := max 1 (min 26 (k - bias))

theorem threshold_pos (k bias : Nat) : 1 ≤ threshold k bias := Nat.le_max_left ..

/-- Divide a distance by 35 until it is at most 455; the second number grows by 36 each
time. -/
def scaleDown (delta k : Nat) : Nat × Nat :=
  if 455 < delta then scaleDown (delta / 35) (k + 36) else (delta, k)
termination_by delta
decreasing_by exact Nat.div_lt_self (by omega) (by omega)

/-- The bias after a distance, when `count` characters have been inserted. -/
def adapt (delta count : Nat) (first : Bool) : Nat :=
  let d := if first then delta / 700 else delta / 2
  let (d, k) := scaleDown (d + d / count) 0
  k + 36 * d / (d + 38)

/-- The digits of a distance, from place `k` on. -/
def encodeDistance (bias k q : Nat) : List Char :=
  let t := threshold k bias
  if q < t then [digitChar q]
  else digitChar (t + (q - t) % (36 - t)) :: encodeDistance bias (k + 36) ((q - t) / (36 - t))
termination_by q
decreasing_by
  have := threshold_pos k bias
  exact Nat.lt_of_le_of_lt (Nat.div_le_self ..) (by omega)

/-- What encoding keeps: the text so far, the distance since the last insertion, the bias,
and how many characters are written. -/
structure Encoding where
  written : List Char
  delta : Nat
  bias : Nat
  count : Nat

/-- Pass a character of the label while inserting those equal to the code point `n`. -/
def Encoding.pass (basic n : Nat) (e : Encoding) (c : Char) : Encoding :=
  if c.toNat < n then { e with delta := e.delta + 1 }
  else if c.toNat = n then
    { written := e.written ++ encodeDistance e.bias 36 e.delta
      delta := 0
      bias := adapt e.delta (e.count + 1) (e.count = basic)
      count := e.count + 1 }
  else e

/-- Insert the characters with the given code points, in increasing order; `n` is the
least code point not yet passed. -/
def Encoding.insertAll (label : List Char) (basic : Nat) :
    List Nat → (n : Nat) → Encoding → Encoding
  | [], _, e => e
  | m :: rest, n, e =>
    let e := { e with delta := e.delta + (m - n) * (e.count + 1) }
    let e := label.foldl (Encoding.pass basic m) e
    insertAll label basic rest (m + 1) { e with delta := e.delta + 1 }

/-- Whether a character is ASCII. -/
def isBasic (c : Char) : Bool := c.toNat < 0x80

/-- The Punycode of a label. -/
def encode (label : List Char) : List Char :=
  let basic := label.filter isBasic
  let start := if basic.isEmpty then [] else basic ++ ['-']
  let others := ((label.filter (!isBasic ·)).map Char.toNat).eraseDups.mergeSort (· ≤ ·)
  (Encoding.insertAll label basic.length others 0x80
    { written := start, delta := 0, bias := 72, count := basic.length }).written

/-- What the weight of a digit stays below. -/
def weightLimit : Nat := 0x100000000

/-- Read a distance, whose next digit has the weight `w` at place `k`. -/
def decodeDistance (bias : Nat) : (k w : Nat) → List Char → Option (Nat × List Char)
  | _, _, [] => none
  | k, w, c :: rest =>
    match digitValue? c with
    | none => none
    | some d =>
      let t := threshold k bias
      if d < t then some (d * w, rest)
      else if weightLimit ≤ w * (36 - t) then none
      else (decodeDistance bias (k + 36) (w * (36 - t)) rest).map fun p => (d * w + p.1, p.2)

theorem length_of_decodeDistance {bias k w n : Nat} {s rest : List Char}
    (h : decodeDistance bias k w s = some (n, rest)) : rest.length < s.length := by
  induction s generalizing k w n with
  | nil => simp [decodeDistance] at h
  | cons c s ih =>
    simp only [decodeDistance] at h
    split at h
    · simp at h
    · split at h
      · simp only [Option.some.injEq, Prod.mk.injEq] at h
        rw [← h.2]
        exact Nat.lt_succ_self _
      · split at h
        · simp at h
        obtain ⟨⟨m, r⟩, hp, heq⟩ := Option.map_eq_some_iff.1 h
        simp only [Prod.mk.injEq] at heq
        rw [heq.2] at hp
        exact Nat.lt_succ_of_lt (ih hp)

/-- Insert characters as the distances say: `label` is what has been read so far, `n` the
code point and `i` the place of the last insertion. -/
def decodeInsertions (label : List Char) (n i bias : Nat) (s : List Char) : Option (List Char) :=
  match h : decodeDistance bias 36 1 s with
  | none => if s.isEmpty then some label else none
  | some (distance, rest) =>
    have : rest.length < s.length := length_of_decodeDistance h
    let count := label.length + 1
    let place := i + distance
    let next := n + place / count
    if next.isValidChar then
      let (before, after) := label.splitAt (place % count)
      decodeInsertions (before ++ Char.ofNat next :: after) next (place % count + 1)
        (adapt distance count (i = 0)) rest
    else none
termination_by s.length

/-- The label that a Punycode text writes. -/
def decode? (s : List Char) : Option (List Char) :=
  let tail := s.reverse.takeWhile (· ≠ '-')
  let basic := (s.take (s.length - tail.length)).dropLast
  if basic.all isBasic then decodeInsertions basic 0x80 0 72 tail.reverse else none

end HttpGet.Punycode
