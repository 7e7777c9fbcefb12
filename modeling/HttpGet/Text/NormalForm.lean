/-
The composed normal form of a text.

Two texts that mean the same characters can be written differently: a letter with an
accent is one character or two, and marks on one letter may come in several orders.  The
normal form takes everything apart, puts the marks in order, and joins what makes a
character of its own.

Ordering moves marks only past marks of a higher class.  Joining goes through the text with
the last starter, a character of class zero, and joins to it each following character that
makes a composite with it, unless a character between them, of the same class or none,
stands in the way.
-/
import HttpGet.Text.CombiningClass
import HttpGet.Text.Composite
import HttpGet.Text.Equivalent

namespace HttpGet.NormalForm

/-! ### Taking apart -/

/-- A character taken apart, up to so many times; only its first part can have parts. -/
def takeApart : Nat → Char → List Char
  | 0, c => [c]
  | times + 1, c =>
    match parts? c with
    | none => [c]
    | some (first, second) => takeApart times first ++ [second]

/-- A character without composites.  No character has more than three marks. -/
def decompose (c : Char) : List Char :=
  ((equivalent? c).getD [c]).flatMap (takeApart 3)

theorem decompose_of_lt {c : Char} (h : c.toNat < 0xC0) : decompose c = [c] := by
  unfold decompose
  rw [equivalent?_of_lt (by omega)]
  simp [takeApart, parts?_of_lt h]

/-! ### Ordering -/

/-- Put a character before a text whose marks are in order. -/
def insertMark (c : Char) : List Char → List Char
  | [] => [c]
  | d :: rest =>
    if 0 < combiningClass d ∧ combiningClass d < combiningClass c then d :: insertMark c rest
    else c :: d :: rest

/-- A text with its marks in order. -/
def order (s : List Char) : List Char := s.foldr insertMark []

/-! ### Joining -/

/-- Join the characters of a text to the starter before it.  `kept` are the characters
that stay between the starter and the text, the last of them first. -/
def joinTo (starter : Char) (kept : List Char) : List Char → List Char
  | [] => starter :: kept.reverse
  | c :: rest =>
    let rank := combiningClass c
    let free := (kept.head?.map fun k => decide (combiningClass k < rank)).getD true
    match if free then composite? starter c else none with
    | some whole => joinTo whole kept rest
    | none =>
      if rank = 0 then starter :: kept.reverse ++ joinTo c [] rest
      else joinTo starter (c :: kept) rest

/-- A text with its parts joined.  Marks before the first starter stay. -/
def compose : List Char → List Char
  | [] => []
  | c :: rest => if combiningClass c = 0 then joinTo c [] rest else c :: compose rest

example : order ['q', '\u0307', '\u0323'] = ['q', '\u0323', '\u0307'] ∧
    compose ['e', '\u0301', 's'] = ['é', 's'] := by decide +kernel

end NormalForm

/-- The composed normal form of a text. -/
def normalForm (s : List Char) : List Char :=
  NormalForm.compose (NormalForm.order (s.flatMap NormalForm.decompose))

/-! ### Texts of ASCII -/

namespace NormalForm

theorem flatMap_decompose_of_lt {s : List Char} (h : ∀ c ∈ s, c.toNat < 0xC0) :
    s.flatMap decompose = s := by
  induction s with
  | nil => rfl
  | cons c rest ih =>
    rw [List.flatMap_cons, decompose_of_lt (h c (by simp)),
      ih fun d hd => h d (List.mem_cons_of_mem _ hd)]
    rfl

theorem order_of_lt {s : List Char} (h : ∀ c ∈ s, c.toNat < 0x300) : order s = s := by
  induction s with
  | nil => rfl
  | cons c rest ih =>
    have tail : order rest = rest := ih fun d hd => h d (List.mem_cons_of_mem _ hd)
    unfold order at tail ⊢
    rw [List.foldr_cons, tail]
    cases rest with
    | nil => rfl
    | cons d rest =>
      have : combiningClass d = 0 := combiningClass_of_lt (h d (by simp))
      simp [insertMark, this]

theorem joinTo_of_lt {starter : Char} {s : List Char} (h : ∀ c ∈ s, c.toNat < 0x300) :
    joinTo starter [] s = starter :: s := by
  induction s generalizing starter with
  | nil => rfl
  | cons c rest ih =>
    have small : c.toNat < 0x300 := h c (by simp)
    have tail : joinTo c [] rest = c :: rest := ih fun d hd => h d (List.mem_cons_of_mem _ hd)
    simp [joinTo, composite?_of_lt small, combiningClass_of_lt small, tail]

theorem compose_of_lt {s : List Char} (h : ∀ c ∈ s, c.toNat < 0x300) : compose s = s := by
  cases s with
  | nil => rfl
  | cons c rest =>
    have small : c.toNat < 0x300 := h c (by simp)
    have tail : joinTo c [] rest = c :: rest :=
      joinTo_of_lt fun d hd => h d (List.mem_cons_of_mem _ hd)
    simp [compose, combiningClass_of_lt small, tail]

end NormalForm

/-- A text of ASCII is in normal form. -/
theorem normalForm_of_lt {s : List Char} (h : ∀ c ∈ s, c.toNat < 0x80) : normalForm s = s := by
  have wide : ∀ c ∈ s, c.toNat < 0x300 := fun c hc => Nat.lt_trans (h c hc) (by decide)
  unfold normalForm
  rw [NormalForm.flatMap_decompose_of_lt fun c hc => Nat.lt_trans (h c hc) (by decide),
    NormalForm.order_of_lt wide, NormalForm.compose_of_lt wide]

end HttpGet
