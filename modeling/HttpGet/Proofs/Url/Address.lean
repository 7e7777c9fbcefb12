/-
Numeric hosts written and read.

The text of an address is in normal form, and reading it gives the address back: the digits of
a byte or of a piece spell it, and where a run of zeros is left out the pieces on both sides
leave room for exactly as many.
-/
import HttpGet.Proofs.Url.Cutting
import HttpGet.Url.Address

namespace HttpGet

/-! ### Digits -/

theorem digitIn?_digitChar {base n : Nat} (hn : n < base) (hbase : base ≤ 16) :
    digitIn? base n.digitChar = some n := by
  have hvalue : hexValue? n.digitChar = some n := hexValue?_hexDigit (Nat.lt_of_lt_of_le hn hbase)
  simp [digitIn?, hvalue, hn]

/-- The digits of a number spell it. -/
theorem numberIn?_toDigits {base : Nat} (hone : 1 < base) (hbase : base ≤ 16) (n : Nat) :
    numberIn? base (Nat.toDigits base n) = some n := by
  induction n using Nat.strongRecOn with
  | ind n ih =>
      by_cases hn : n < base
      · rw [Nat.toDigits_of_lt_base hn]
        simp [numberIn?, digitIn?_digitChar hn hbase]
      · have hle : base ≤ n := Nat.le_of_not_lt hn
        have hrest := ih (n / base) (Nat.div_lt_self (by omega) hone)
        have hlast := digitIn?_digitChar (Nat.mod_lt n (by omega)) hbase
        rw [numberIn?] at hrest
        rw [Nat.toDigits_of_base_le hone hle, numberIn?, List.foldl_append, hrest]
        simp [hlast, Nat.div_add_mod']

/-- The digits up to base sixteen, in the order of their values. -/
def digitSigns : List Char := "0123456789abcdef".toList

theorem mem_toDigits {base n : Nat} {c : Char} (hone : 1 < base) (hbase : base ≤ 16)
    (hc : c ∈ Nat.toDigits base n) : c ∈ digitSigns.take base := by
  have hdigit : ∀ d, d < base → d.digitChar ∈ digitSigns.take base := by
    have all : ∀ base : Fin 17, ∀ d : Fin 16, d.val < base.val →
        d.val.digitChar ∈ digitSigns.take base.val := by decide
    exact fun d hd => all ⟨base, by omega⟩ ⟨d, by omega⟩ hd
  induction n using Nat.strongRecOn with
  | ind n ih =>
      by_cases hn : n < base
      · rw [Nat.toDigits_of_lt_base hn, List.mem_singleton] at hc
        exact hc ▸ hdigit n hn
      · rw [Nat.toDigits_of_base_le hone (Nat.le_of_not_lt hn), List.mem_append] at hc
        obtain hc | hc := hc
        · exact ih _ (Nat.div_lt_self (by omega) hone) hc
        · rw [List.mem_singleton] at hc
          exact hc ▸ hdigit _ (Nat.mod_lt n (by omega))

namespace Ipv4

theorem number?_toDigits {n : Nat} (h : n < 256) : number? (Nat.toDigits 10 n) = some n := by
  have all : ∀ n : Fin 256, number? (Nat.toDigits 10 n.val) = some n.val := by decide +kernel
  exact all ⟨n, h⟩

theorem bytes_lt (a : Ipv4) : ∀ b ∈ a.bytes, b < 256 := by
  have hlt : a.toNat < 0x100000000 := a.toNat_lt
  simp only [bytes, List.forall_mem_cons]
  refine ⟨by omega, by omega, by omega, by omega, by simp⟩

/-- The parts of an address that is written out are the digits of its bytes. -/
theorem splitWhere_write (a : Ipv4) :
    splitWhere (· = '.') a.write = a.bytes.map (Nat.toDigits 10) := by
  refine splitWhere_joinWith (by simp) (by simp [bytes]) fun piece hpiece c hc => ?_
  obtain ⟨b, -, rfl⟩ := List.mem_map.mp hpiece
  have all : ∀ c ∈ digitSigns.take 10, decide (c = '.') = false :=
    forall_mem_of_all (by decide)
  exact all c (mem_toDigits (by decide) (by decide) hc)

/-- What addresses are written with. -/
def signs : List Char := '.' :: digitSigns.take 10

theorem mem_write {a : Ipv4} : ∀ c ∈ a.write, c ∈ signs := by
  refine forall_mem_joinWith (forall_mem_of_all (by decide)) fun piece hpiece c hc => ?_
  obtain ⟨b, -, rfl⟩ := List.mem_map.mp hpiece
  exact List.mem_cons_of_mem _ (mem_toDigits (by decide) (by decide) hc)

theorem endsInNumber_write (a : Ipv4) : endsInNumber a.write = true := by
  have hdigits : ∀ c ∈ Nat.toDigits 10 (a.toNat % 256), c.isDigit = true := fun c hc =>
    Nat.isDigit_of_mem_toDigits (by decide) (by decide) hc
  obtain ⟨c, rest, hlast⟩ :=
    List.exists_cons_of_ne_nil (Nat.toDigits_ne_nil (n := a.toNat % 256) (b := 10))
  rw [hlast] at hdigits
  have hall : (c :: rest).all Char.isDigit = true := List.all_eq_true.mpr hdigits
  rw [endsInNumber, splitWhere_write]
  simp only [bytes, List.map_cons, List.map_nil, List.reverse_cons, List.reverse_nil,
    List.nil_append, List.cons_append, hlast, hall, List.isEmpty_cons, Bool.not_false,
    Bool.and_self, Bool.true_or]

theorem write_ne_nil (a : Ipv4) : a.write ≠ [] := by
  intro h
  have hends := a.endsInNumber_write
  rw [h] at hends
  exact absurd hends (by decide)

theorem ofNumbers?_bytes (a : Ipv4) : ofNumbers? a.bytes = some a := by
  have hbytes := a.bytes_lt
  have hsum : ((a.toNat / 0x1000000 * 256 + a.toNat / 0x10000 % 256) * 256 +
      a.toNat / 0x100 % 256) * 256 + a.toNat % 256 = a.toNat := by omega
  simp only [bytes, List.forall_mem_cons] at hbytes
  simp [ofNumbers?, bytes, hbytes, hsum]

theorem ofHost?_write (a : Ipv4) : ofHost? a.write = some a := by
  have hlast : (a.bytes.map (Nat.toDigits 10)).getLast? ≠ some [] := by
    simp [bytes, Nat.toDigits_ne_nil]
  have hnumbers : (a.bytes.map (Nat.toDigits 10)).mapM number? = some a.bytes := by
    have hbytes := a.bytes_lt
    simp only [bytes, List.forall_mem_cons] at hbytes
    simp [bytes, number?_toDigits, hbytes]
  rw [ofHost?, splitWhere_write]
  simp only [if_neg hlast, hnumbers, Option.bind_eq_bind, Option.bind_some, ofNumbers?_bytes]

end Ipv4

namespace Ipv6

/-! ### Pieces -/

theorem piece?_hexDigits (p : UInt16) : piece? (hexDigits p.toNat) = some p := by
  have hlt : p.toNat < 16 ^ 4 := p.toNat_lt
  have hlength : (hexDigits p.toNat).length ≤ 4 :=
    (Nat.length_toDigits_le_iff (by decide) (by decide)).mpr hlt
  have hne : hexDigits p.toNat ≠ [] := Nat.toDigits_ne_nil
  have hnumber : numberIn? 16 (hexDigits p.toNat) = some p.toNat :=
    numberIn?_toDigits (by decide) (by decide) p.toNat
  simp [piece?, hne, Nat.not_lt.mpr hlength, hnumber]

theorem ne_colon_of_mem_hexDigits {n : Nat} : ∀ c ∈ hexDigits n, c ≠ ':' := by
  have all : ∀ c ∈ digitSigns, c ≠ ':' := forall_mem_of_all (by decide)
  exact fun c hc => all c (List.mem_of_mem_take (mem_toDigits (by decide) (by decide) hc))

/-- What addresses are written with. -/
def signs : List Char := ':' :: digitSigns

theorem mem_writePieces {pieces : List UInt16} : ∀ c ∈ writePieces pieces, c ∈ signs := by
  refine forall_mem_joinWith (forall_mem_of_all (by decide)) fun piece hpiece c hc => ?_
  obtain ⟨p, -, rfl⟩ := List.mem_map.mp hpiece
  exact List.mem_cons_of_mem _ (List.mem_of_mem_take (mem_toDigits (by decide) (by decide) hc))

theorem splitWhere_writePieces {pieces : List UInt16} (hne : pieces ≠ []) :
    splitWhere (· = ':') (writePieces pieces) = pieces.map fun p => hexDigits p.toNat := by
  refine splitWhere_joinWith (by simp) (by simpa using hne) fun piece hpiece c hc => ?_
  obtain ⟨p, -, rfl⟩ := List.mem_map.mp hpiece
  exact decide_eq_false (ne_colon_of_mem_hexDigits c hc)

theorem pieces?_hexDigits {pieces : List UInt16} :
    pieces? (pieces.map fun p => hexDigits p.toNat) = some pieces := by
  induction pieces with
  | nil => rfl
  | cons p rest ih =>
      cases rest with
      | nil =>
          have hdot : '.' ∉ hexDigits p.toNat := fun h =>
            absurd ((mem_writePieces : ∀ c ∈ writePieces [p], c ∈ signs) '.' h) (by decide)
          simp [pieces?, hdot, piece?_hexDigits]
      | cons q rest =>
          simp only [List.map_cons] at ih ⊢
          rw [pieces?, piece?_hexDigits, ih]
          · rfl
          · simp

/-- Pieces that are written out begin with a digit. -/
theorem writePieces_cons (p : UInt16) (rest : List UInt16) :
    ∃ d tail, d ≠ ':' ∧ writePieces (p :: rest) = d :: tail := by
  obtain ⟨d, digits, hdigits⟩ := List.exists_cons_of_ne_nil (Nat.toDigits_ne_nil (n := p.toNat) (b := 16))
  have hd : d ≠ ':' := ne_colon_of_mem_hexDigits (n := p.toNat) d (by simp [hexDigits, hdigits])
  cases rest with
  | nil => exact ⟨d, digits, hd, hdigits⟩
  | cons q rest =>
      refine ⟨d, digits ++ ':' :: writePieces (q :: rest), hd, ?_⟩
      simp [writePieces, joinWith, hexDigits, hdigits]

theorem side?_writePieces (pieces : List UInt16) : side? (writePieces pieces) = some pieces := by
  cases pieces with
  | nil => rfl
  | cons p rest =>
      obtain ⟨d, tail, -, hwrite⟩ := writePieces_cons p rest
      rw [side?, if_neg (by simp [hwrite]), splitWhere_writePieces (by simp), pieces?_hexDigits]

/-! ### The gap -/

theorem cutAtGap_append_of_ne {piece : List Char} (h : ∀ c ∈ piece, c ≠ ':') (s : List Char) :
    cutAtGap (piece ++ s) = (cutAtGap s).map fun p => (piece ++ p.1, p.2) := by
  induction piece with
  | nil => simp
  | cons c rest ih =>
      obtain ⟨hc, hrest⟩ := List.forall_mem_cons.mp h
      rw [List.cons_append, cutAtGap, ih hrest]
      · simp [Function.comp_def]
      · exact fun _ heq => absurd heq hc

/-- Pieces with single colons between them have no gap; where one comes after them, they are
what stands before it. -/
theorem cutAtGap_writePieces_append (pieces : List UInt16) (s : List Char) :
    cutAtGap (writePieces pieces ++ s) =
      (cutAtGap s).map fun p => (writePieces pieces ++ p.1, p.2) := by
  induction pieces with
  | nil => simp [writePieces, joinWith]
  | cons p rest ih =>
      have hp : ∀ c ∈ hexDigits p.toNat, c ≠ ':' := ne_colon_of_mem_hexDigits
      cases rest with
      | nil => exact cutAtGap_append_of_ne hp s
      | cons q rest =>
          have hwrite : writePieces (p :: q :: rest) =
              hexDigits p.toNat ++ ':' :: writePieces (q :: rest) := by
            simp [writePieces, joinWith]
          -- the colon is followed by a digit, so that no gap begins with it
          have hcolon : cutAtGap (':' :: (writePieces (q :: rest) ++ s)) =
              (cutAtGap (writePieces (q :: rest) ++ s)).map fun p => (':' :: p.1, p.2) := by
            obtain ⟨d, tail, hd, htail⟩ := writePieces_cons q rest
            rw [htail, cutAtGap]
            exact fun _ _ heq => hd (List.cons.inj heq).1
          rw [hwrite, List.append_assoc, List.cons_append, cutAtGap_append_of_ne hp, hcolon, ih]
          simp [Function.comp_def]

theorem takeWhile_zero (pieces : List UInt16) :
    pieces.takeWhile (· = 0) = List.replicate (leadingZeros pieces) 0 := by
  rw [leadingZeros, List.eq_replicate_iff]
  exact ⟨rfl, fun p hp => by simpa using List.all_eq_true.mp List.all_takeWhile p hp⟩

theorem longestGap_cons (p : UInt16) (rest : List UInt16) : longestGap (p :: rest) =
    if (longestGap rest).2 ≤ leadingZeros (p :: rest) then (0, leadingZeros (p :: rest))
    else ((longestGap rest).1 + 1, (longestGap rest).2) := rfl

/-- The longest run of zeros is one. -/
theorem exists_longestGap (pieces : List UInt16) : ∃ front back,
    pieces = front ++ List.replicate (longestGap pieces).2 0 ++ back ∧
      front.length = (longestGap pieces).1 := by
  induction pieces with
  | nil => exact ⟨[], [], rfl, rfl⟩
  | cons p rest ih =>
      obtain ⟨front, back, hrest, hfront⟩ := ih
      rw [longestGap_cons]
      split
      · refine ⟨[], (p :: rest).dropWhile (· = 0), ?_, rfl⟩
        rw [List.nil_append, ← takeWhile_zero, List.takeWhile_append_dropWhile]
      · refine ⟨p :: front, back, ?_, by simp [hfront]⟩
        rw [List.cons_append, List.cons_append, ← hrest]

/-! ### The normal form -/

/-- An address is written as its pieces, a run of two or more zeros among them left out. -/
theorem exists_write (a : Ipv6) : a.write = writePieces a.val ∨ ∃ front gap back,
    2 ≤ gap ∧ a.val = front ++ List.replicate gap 0 ++ back ∧
      a.write = writePieces front ++ ':' :: ':' :: writePieces back := by
  have hwrite : a.write = if (longestGap a.val).2 < 2 then writePieces a.val
      else writePieces (a.val.take (longestGap a.val).1) ++ [':', ':'] ++
        writePieces (a.val.drop ((longestGap a.val).1 + (longestGap a.val).2)) := rfl
  obtain ⟨front, back, hval, hfront⟩ := exists_longestGap a.val
  generalize longestGap a.val = gap at hwrite hval hfront
  by_cases hgap : gap.2 < 2
  · exact Or.inl (by rw [hwrite, if_pos hgap])
  · have htake : a.val.take gap.1 = front := by
      rw [hval, ← hfront, List.append_assoc, List.take_left]
    have hdrop : a.val.drop (gap.1 + gap.2) = back := by
      rw [hval]
      exact List.drop_left' (by simp [hfront])
    refine Or.inr ⟨front, gap.2, back, Nat.le_of_not_lt hgap, hval, ?_⟩
    rw [hwrite, if_neg hgap, htake, hdrop, List.append_assoc]
    rfl

theorem mem_write {a : Ipv6} : ∀ c ∈ a.write, c ∈ signs := by
  obtain hwrite | ⟨front, gap, back, -, -, hwrite⟩ := a.exists_write
  · rw [hwrite]
    exact mem_writePieces
  · have hcolon : ':' ∈ signs := List.mem_cons_self
    rw [hwrite]
    refine List.forall_mem_append.mpr ⟨mem_writePieces, ?_⟩
    exact List.forall_mem_cons.mpr ⟨hcolon, List.forall_mem_cons.mpr ⟨hcolon, mem_writePieces⟩⟩

theorem ofPieces?_val (a : Ipv6) : ofPieces? a.val = some a := dif_pos a.property

/-- The normal form of an address spells it. -/
theorem ofText?_write (a : Ipv6) : ofText? a.write = some a := by
  obtain hwrite | ⟨front, gap, back, hgap, hval, hwrite⟩ := a.exists_write
  · have hne : a.val ≠ [] := List.ne_nil_of_length_pos (by rw [a.property]; decide)
    have hcut : cutAtGap (writePieces a.val) = none := by
      simpa [cutAtGap] using cutAtGap_writePieces_append a.val []
    rw [hwrite, ofText?, hcut]
    simp only [splitWhere_writePieces hne, pieces?_hexDigits, Option.bind_some, ofPieces?_val]
  · have hcut : cutAtGap a.write = some (writePieces front, writePieces back) := by
      simp [hwrite, cutAtGap_writePieces_append, cutAtGap]
    have hdot : (writePieces front).contains '.' = false := by
      rw [List.contains_eq_mem, decide_eq_false_iff_not]
      intro h
      exact absurd (mem_writePieces '.' h) (by decide)
    have hlength : front.length + gap + back.length = 8 := by
      rw [← a.property, hval, List.length_append, List.length_append, List.length_replicate]
    have hroom : 8 - front.length - back.length = gap := by omega
    have hle : front.length + back.length ≤ 7 := by omega
    rw [ofText?, hcut]
    simp only [hdot, Bool.false_eq_true, if_false, side?_writePieces, Option.bind_eq_bind,
      Option.bind_some, if_pos hle, hroom, ← hval, ofPieces?_val]

end Ipv6
end HttpGet
