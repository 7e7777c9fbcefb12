/-
Integers are exact or refused.

The decimal text of an integer is a literal, and which number the literal denotes depends on
the size of the integer alone: the integer itself where 64 bits hold it, and otherwise a
floating point number or none.  A codec of integers takes only the first kind, and of that only
its own range, so that no value of an integer type is ever a rounded one.

In a list each item is read for itself: a list is read only if each of its items denotes a value.
-/
import HttpGet.Proofs.Decoding
import HttpGet.Proofs.Json.Inversion

namespace HttpGet

namespace Json

/-! ### Literals as texts -/

/-- A literal alone is a text of the number that it denotes; if it denotes none, it is out of
range. -/
theorem parse_literal (l : NumberLiteral) :
    (∃ x, l.numeral.Denotes x ∧ parse (String.ofList l.chars) = .ok (.number x)) ∨
      (¬ ∃ x, l.numeral.Denotes x) ∧
        ∃ e, parse (String.ofList l.chars) = .error e ∧ e.cause = .numberOutOfRange := by
  have hstops : Stops [] := fun c rest hs => absurd hs (by simp)
  have hnumeral := numeral_complete (l := l) hstops
  have hread := readValue_literal l 127 []
  rw [List.append_nil] at hnumeral hread
  rw [readNumber, hnumeral] at hread
  cases hvalue : l.numeral.value with
  | ok x =>
      have hx := (Numeral.value_eq_ok_iff _ _).mp hvalue
      simp only [hvalue, Except.map] at hread
      refine Or.inl ⟨x, hx, ?_⟩
      rw [parse, readText, String.toList_ofList, depthLimit]
      simp only [hread]
      rfl
  | error unread =>
      simp only [hvalue, Except.map] at hread
      refine Or.inr ⟨?_, ?_⟩
      · rintro ⟨x, hx⟩
        rw [(Numeral.value_eq_ok_iff _ _).mpr hx] at hvalue
        exact absurd hvalue (by simp)
      · rw [parse, readText, String.toList_ofList, depthLimit]
        simp only [hread]
        exact ⟨_, rfl, rfl⟩

theorem parse_literal_eq_ok_iff {l : NumberLiteral} {v : Json} :
    parse (String.ofList l.chars) = .ok v ↔ (Derivation.number l).Denotes v := by
  obtain ⟨x, hx, hparse⟩ | ⟨hnone, e, herror, -⟩ := parse_literal l
  · rw [hparse]
    constructor
    · intro hv
      rw [← Except.ok.inj hv]
      exact .number hx
    · rintro (_ | _ | hx' | _)
      rw [hx.unique hx']
  · rw [herror]
    simp only [reduceCtorEq, false_iff]
    rintro (_ | _ | hx' | _)
    exact hnone ⟨_, hx'⟩

/-- The text of an integer is its literal. -/
theorem toList_toString (n : Int) : (toString n).toList = (integerLiteral n).chars := by
  cases n with
  | ofNat k =>
      show (String.ofList (Nat.toDigits 10 k)).toList = _
      have hneg : ¬ Int.ofNat k < 0 := by simp
      rw [String.toList_ofList]
      simp [NumberLiteral.chars, integerLiteral, NumberLiteral.fractionChars,
        NumberLiteral.exponentChars]
  | negSucc k =>
      show ("-" ++ String.ofList (Nat.toDigits 10 (k + 1))).toList = _
      rw [String.toList_append, String.toList_ofList]
      simp [NumberLiteral.chars, integerLiteral, NumberLiteral.fractionChars,
        NumberLiteral.exponentChars]

theorem write_integer (i : ExactInt) : (Number.integer i).write = (integerLiteral i.val).chars := by
  rw [NumberLiteral.chars, Number.write]
  simp [integerLiteral, NumberLiteral.fractionChars, NumberLiteral.exponentChars]

/-- An integer that 64 bits hold is denoted by its literal, and no other number is. -/
theorem denotes_integerLiteral_iff {n : Int} {i : ExactInt} :
    (integerLiteral n).numeral.Denotes (.integer i) ↔ i.val = n := by
  constructor
  · rintro (⟨-, hi⟩ | _)
    rw [hi, signed_integerLiteral]
  · rintro rfl
    exact denotes_integerLiteral i

/-- A literal denotes a floating point number only if 64 bits do not hold it. -/
theorem not_inRange_of_denotes_real {n : Int} {x : Binary64}
    (h : (integerLiteral n).numeral.Denotes (.real x)) :
    ¬ (-0x8000000000000000 ≤ n ∧ n < 0x10000000000000000) := by
  rw [← isInteger_integerLiteral_iff]
  cases h with
  | real hn _ _ _ => exact hn

/-! ### Lists of numbers and texts -/

/-- Whether a derivation is a number or a text. -/
def Derivation.IsAtom : Derivation → Prop
  | .number _ => True
  | .text _ => True
  | _ => False

/-- The text of a list of items. -/
def listText (items : List (List Char)) : String :=
  String.ofList ('[' :: joinWith [','] items ++ [']'])

/-- The text of a list of integers. -/
def integersText (ns : List Int) : String := listText (ns.map fun n => (toString n).toList)

/-- The text of a pair of a text and an integer. -/
def pairText (s : String) (n : Int) : String := listText [quote s, (toString n).toList]

/-- A derivation without blanks around it. -/
def Padded.bare (d : Derivation) : Padded Derivation := ⟨.none, d, .none⟩

theorem listText_chars (ds : List Derivation) : listText (ds.map Derivation.chars) =
    String.ofList ((Padded.bare (.array .none (ds.map .bare))).chars Derivation.chars) := by
  have hitems : (ds.map Padded.bare).map Derivation.itemChars = ds.map Derivation.chars := by
    rw [List.map_map]
    refine List.map_congr_left fun d _ => ?_
    show [] ++ d.chars ++ [] = d.chars
    rw [List.nil_append, List.append_nil]
  rw [Padded.chars, Padded.bare, Derivation.chars_array, hitems, listText, Gap.chars_none,
    List.append_nil, List.nil_append]
  rfl

/-- **A list of numbers and texts is read exactly if each of its items denotes a value.** -/
theorem parse_listText_eq_ok_iff {ds : List Derivation} (hds : ∀ d ∈ ds, d.IsAtom) {v : Json} :
    parse (listText (ds.map Derivation.chars)) = .ok v ↔
      ∃ vs, v = .array vs ∧ List.Forall₂ Derivation.Denotes ds vs := by
  have hcore : (ds.map Padded.bare).map Padded.core = ds := by
    rw [List.map_map]
    exact List.map_id ds
  have hflat : ∀ d ∈ ds, d.depth = 0 := by
    intro d hd
    cases d with
    | number l => rw [Derivation.depth]
    | text ps => rw [Derivation.depth]
    | null => exact (hds _ hd).elim
    | flag b => exact (hds _ hd).elim
    | array gap items => exact (hds _ hd).elim
    | object gap members => exact (hds _ hd).elim
  rw [listText_chars, parse_chars_eq_ok_iff]
  constructor
  · intro h
    obtain ⟨m, vs, -, rfl, hvs⟩ := h.of_array
    rw [hcore] at hvs
    exact ⟨vs, rfl, (forall₂_within_iff.mp hvs).2⟩
  · rintro ⟨vs, rfl, hvs⟩
    refine Within.array (n := 126) ?_
    rw [hcore]
    exact forall₂_within_iff.mpr ⟨fun d hd => by rw [hflat d hd]; omega, hvs⟩

end Json

/-! ### Reading integer types -/

namespace Codec

theorem text_decode_eq_ok_iff {v : Json} {s : String} : text.decode v = .ok s ↔ v = .text s := by
  cases v with
  | text s' => simp [text]
  | _ => simp [text]

/-- A type of integers takes the integers that it has, and nothing else. -/
theorem integer_decode_eq_ok_iff {name : String} {low high : Int} {v : Json}
    {y : { m : Int // low ≤ m ∧ m ≤ high }} : (integer name low high).decode v = .ok y ↔
      ∃ i : ExactInt, v = .number (.integer i) ∧ i.val = y.val := by
  unfold integer
  constructor
  · intro h
    dsimp only at h
    split at h
    · rename_i i
      split at h
      · obtain rfl := Except.ok.inj h
        exact ⟨i, rfl, rfl⟩
      · exact absurd h (by simp)
    · exact absurd h (by simp)
  · rintro ⟨i, rfl, hi⟩
    have hrange : low ≤ i.val ∧ i.val ≤ high := by
      rw [hi]
      exact y.property
    dsimp only
    rw [dif_pos hrange]
    exact congrArg Except.ok (Subtype.ext hi)

theorem decodeTwo_eq_ok_iff {α β : Type} {a : Codec α} {b : Codec β} {name : String}
    {vs : List Json} {p : α × β} : decodeTwo a b name vs = .ok p ↔
      ∃ u v, vs = [u, v] ∧ a.decode u = .ok p.1 ∧ b.decode v = .ok p.2 := by
  match vs with
  | [] => simp [decodeTwo]
  | [u] => cases hu : a.decode u <;> simp [decodeTwo, hu, bind, Except.bind]
  | u :: v :: rest =>
      cases hu : a.decode u with
      | error e => simp [decodeTwo, hu, bind, Except.bind]
      | ok x =>
          cases hv : b.decode v with
          | error e => simp [decodeTwo, hu, hv, bind, Except.bind]
          | ok y =>
              cases rest with
              | nil => simp [decodeTwo, hu, hv, bind, Except.bind, Prod.ext_iff]
              | cons w rest => simp [decodeTwo, hu, hv, bind, Except.bind]

theorem pair_decode_eq_ok_iff {α β : Type} {a : Codec α} {b : Codec β} {v : Json} {p : α × β} :
    (pair a b).decode v = .ok p ↔
      ∃ u w, v = .array [u, w] ∧ a.decode u = .ok p.1 ∧ b.decode w = .ok p.2 := by
  cases v with
  | array vs => simp [pair, decodeTwo_eq_ok_iff]
  | _ => simp [pair]

theorem list_decode_eq_ok_iff {α : Type} {c : Codec α} {v : Json} {xs : List α} :
    (list c).decode v = .ok xs ↔
      ∃ vs, v = .array vs ∧ List.Forall₂ (fun u x => c.decode u = .ok x) vs xs := by
  simp only [← mapM_eq_ok_iff]
  cases v with
  | array vs => simp [list]
  | _ => simp [list]

/-- A type of integers takes the number that the literal of an integer denotes exactly if the
type has that integer. -/
theorem integer_decode_denoted_iff {name : String} {low high : Int}
    (hlow : -0x8000000000000000 ≤ low) (hhigh : high < 0x10000000000000000) {n : Int}
    {x : Json.Number} (h : (Json.integerLiteral n).numeral.Denotes x)
    {y : { m : Int // low ≤ m ∧ m ≤ high }} :
    (integer name low high).decode (.number x) = .ok y ↔ y.val = n := by
  have hy := y.property
  rw [integer_decode_eq_ok_iff]
  cases x with
  | integer i =>
      have hi : i.val = n := Json.denotes_integerLiteral_iff.mp h
      constructor
      · rintro ⟨i', hi', hval⟩
        cases hi'
        rw [← hval, hi]
      · rintro rfl
        exact ⟨i, rfl, hi⟩
  | real x =>
      have hout := Json.not_inRange_of_denotes_real h
      constructor
      · rintro ⟨i, hi, -⟩
        cases hi
      · rintro rfl
        omega

theorem exists_integer_decode_iff (name : String) {low high : Int}
    (hlow : -0x8000000000000000 ≤ low) (hhigh : high < 0x10000000000000000) {n : Int}
    {y : { m : Int // low ≤ m ∧ m ≤ high }} :
    (∃ v, (Json.Derivation.number (Json.integerLiteral n)).Denotes v ∧
      (integer name low high).decode v = .ok y) ↔ y.val = n := by
  constructor
  · rintro ⟨v, hv, hy⟩
    cases hv with
    | number hx => exact (integer_decode_denoted_iff hlow hhigh hx).mp hy
  · intro hy
    have hproperty := y.property
    have hx : (Json.integerLiteral n).numeral.Denotes (.integer ⟨y.val, by omega, by omega⟩) :=
      Json.denotes_integerLiteral_iff.mpr hy
    exact ⟨_, .number hx, (integer_decode_denoted_iff hlow hhigh hx).mpr hy⟩

theorem exists_integers_decode_iff (name : String) {low high : Int}
    (hlow : -0x8000000000000000 ≤ low) (hhigh : high < 0x10000000000000000) {ns : List Int}
    {ys : List { m : Int // low ≤ m ∧ m ≤ high }} :
    (∃ vs, List.Forall₂ Json.Derivation.Denotes
        (ns.map fun n => .number (Json.integerLiteral n)) vs ∧
      List.Forall₂ (fun v y => (integer name low high).decode v = .ok y) vs ys) ↔
        ys.map Subtype.val = ns := by
  induction ns generalizing ys with
  | nil =>
      cases ys with
      | nil => simp
      | cons y ys => simp
  | cons n ns ih =>
      cases ys with
      | nil => simp
      | cons y ys =>
          rw [List.map_cons, List.map_cons, List.cons.injEq, ← ih,
            ← exists_integer_decode_iff name hlow hhigh]
          constructor
          · rintro ⟨_, hvs, hys⟩
            obtain ⟨v, vs, hv, hrest, rfl⟩ := List.forall₂_cons_left_iff.mp hvs
            obtain ⟨hy, hys⟩ := List.forall₂_cons.mp hys
            exact ⟨⟨v, hv, hy⟩, vs, hrest, hys⟩
          · rintro ⟨⟨v, hv, hy⟩, vs, hvs, hys⟩
            exact ⟨v :: vs, .cons hv hvs, .cons hy hys⟩

end Codec

section Announced

variable {contentType : Option String} (h : Payload.isJsonContent contentType = true)
include h

/-- The text of an integer gives a value of a type of integers exactly if that is the
integer. -/
theorem yields_integer_iff {name : String} {low high : Int} (hlow : -0x8000000000000000 ≤ low)
    (hhigh : high < 0x10000000000000000) {n : Int} {y : { m : Int // low ≤ m ∧ m ≤ high }} :
    Payload.Yields contentType (toString n) (.integer name low high) y ↔ y.val = n := by
  have htext : toString n = String.ofList (Json.integerLiteral n).chars := by
    rw [← Json.toList_toString, String.ofList_toList]
  rw [yields_iff h, htext]
  simp only [Json.parse_literal_eq_ok_iff]
  exact Codec.exists_integer_decode_iff name hlow hhigh

/-- The text of a list of integers gives a list of a type of integers exactly if that is the
list. -/
theorem yields_integers_iff {name : String} {low high : Int} (hlow : -0x8000000000000000 ≤ low)
    (hhigh : high < 0x10000000000000000) {ns : List Int}
    {ys : List { m : Int // low ≤ m ∧ m ≤ high }} :
    Payload.Yields contentType (Json.integersText ns) (.list (.integer name low high)) ys ↔
      ys.map Subtype.val = ns := by
  have htexts : (ns.map fun n => (toString n).toList) =
      (ns.map fun n => Json.Derivation.number (Json.integerLiteral n)).map Json.Derivation.chars := by
    rw [List.map_map]
    refine List.map_congr_left fun n _ => ?_
    rw [Json.toList_toString, Function.comp_apply, Json.Derivation.chars]
  have hatoms : ∀ d ∈ ns.map fun n => Json.Derivation.number (Json.integerLiteral n), d.IsAtom := by
    simp [Json.Derivation.IsAtom]
  rw [yields_iff h, Json.integersText, htexts, ← Codec.exists_integers_decode_iff name hlow hhigh]
  simp only [Json.parse_listText_eq_ok_iff hatoms, Codec.list_decode_eq_ok_iff]
  constructor
  · rintro ⟨_, ⟨vs, rfl, hvs⟩, vs', heq, hys⟩
    cases heq
    exact ⟨vs, hvs, hys⟩
  · rintro ⟨vs, hvs, hys⟩
    exact ⟨_, ⟨vs, rfl, hvs⟩, vs, rfl, hys⟩

/-- The text of a pair of a text and an integer gives a pair exactly if it is that one. -/
theorem yields_pair_iff {name : String} {low high : Int} (hlow : -0x8000000000000000 ≤ low)
    (hhigh : high < 0x10000000000000000) {s : String} {n : Int}
    {p : String × { m : Int // low ≤ m ∧ m ≤ high }} :
    Payload.Yields contentType (Json.pairText s n) (.pair .text (.integer name low high)) p ↔
      p.1 = s ∧ p.2.val = n := by
  obtain ⟨ps, hps, rfl⟩ := Json.exists_pieces s
  have htexts : [Json.quote (Json.unescaped ps), (toString n).toList] =
      [Json.Derivation.text ps, .number (Json.integerLiteral n)].map Json.Derivation.chars := by
    rw [← hps, Json.toList_toString]
    simp [Json.Derivation.chars]
  have hatoms : ∀ d ∈ [Json.Derivation.text ps, .number (Json.integerLiteral n)], d.IsAtom := by
    simp [Json.Derivation.IsAtom]
  rw [yields_iff h, Json.pairText, htexts, ← Codec.exists_integer_decode_iff name hlow hhigh]
  simp only [Json.parse_listText_eq_ok_iff hatoms]
  simp only [Codec.pair_decode_eq_ok_iff]
  constructor
  · rintro ⟨_, ⟨_, rfl, hvs⟩, u, v, huv, hu, hy⟩
    cases huv
    obtain ⟨htext, hnumber⟩ := List.forall₂_cons.mp hvs
    obtain ⟨hv, -⟩ := List.forall₂_cons.mp hnumber
    cases htext
    exact ⟨(Json.text.inj (Codec.text_decode_eq_ok_iff.mp hu)).symm, v, hv, hy⟩
  · rintro ⟨hs, v, hv, hy⟩
    exact ⟨_, ⟨[.text (Json.unescaped ps), v], rfl, .cons (.text ps) (.cons hv .nil)⟩, _, v, rfl,
      Codec.text_decode_eq_ok_iff.mpr (congrArg Json.text hs.symm), hy⟩

end Announced

/-! ### What a text of integers comes to -/

/-- Whether a body gives a value of a type of integers exactly if the type has `n`, and then
gives `n`. -/
def Payload.YieldsInRange {low high : Int} (contentType : Option String) (body : String)
    (c : Codec { m : Int // low ≤ m ∧ m ≤ high }) (n : Int) : Prop :=
  ((∃ y, Yields contentType body c y) ↔ low ≤ n ∧ n ≤ high) ∧
    ∀ y, Yields contentType body c y → y.val = n

theorem exists_val_eq_iff {low high n : Int} :
    (∃ y : { m : Int // low ≤ m ∧ m ≤ high }, y.val = n) ↔ low ≤ n ∧ n ≤ high := by
  constructor
  · rintro ⟨y, rfl⟩
    exact y.property
  · intro h
    exact ⟨⟨n, h⟩, rfl⟩

theorem yieldsInRange_integer {contentType : Option String}
    (h : Payload.isJsonContent contentType = true) {name : String} {low high : Int}
    (hlow : -0x8000000000000000 ≤ low) (hhigh : high < 0x10000000000000000) (n : Int) :
    Payload.YieldsInRange contentType (toString n) (.integer name low high) n := by
  constructor
  · simp only [yields_integer_iff h hlow hhigh]
    exact exists_val_eq_iff
  · exact fun y => (yields_integer_iff h hlow hhigh).mp

theorem exists_map_val_eq_iff {low high : Int} {ns : List Int} :
    (∃ ys : List { m : Int // low ≤ m ∧ m ≤ high }, ys.map Subtype.val = ns) ↔
      ∀ m ∈ ns, low ≤ m ∧ m ≤ high := by
  constructor
  · rintro ⟨ys, rfl⟩ m hm
    obtain ⟨y, -, rfl⟩ := List.mem_map.mp hm
    exact y.property
  · intro h
    exact ⟨ns.attachWith _ h, List.attachWith_map_subtype_val h⟩

/-- **The decimal text of an integer is decoded to that integer exactly if 64 bits hold it, and
is then written with the same digits; any other is a floating point number or out of range.  A
type of integers takes those in its range and no others, alone, as the items of a list and in a
pair, and each as it is.** -/
theorem integer_exact_or_refused (left right : String) (n : Int) :
    ((∃ i : ExactInt, Payload.decode (Payload.announcing left right) (toString n) =
          .ok (.json (.number (.integer i))) ∧
        i.val = n ∧ (Payload.json (.number (.integer i))).compact = toString n) ↔
      -0x8000000000000000 ≤ n ∧ n < 0x10000000000000000) ∧
    (∀ i : ExactInt, Payload.decode (Payload.announcing left right) (toString n) =
      .ok (.json (.number (.integer i))) → i.val = n) ∧
    (¬ (-0x8000000000000000 ≤ n ∧ n < 0x10000000000000000) →
      (∃ x : Binary64, Payload.decode (Payload.announcing left right) (toString n) =
          .ok (.json (.number (.real x)))) ∨
        ∃ e, Payload.decode (Payload.announcing left right) (toString n) = .error e ∧
          e.cause = .numberOutOfRange) ∧
    Payload.YieldsInRange (Payload.announcing left right) (toString n) .unsigned64 n ∧
    Payload.YieldsInRange (Payload.announcing left right) (toString n) .signed8 n ∧
    (∀ ns : List Int,
      ((∃ ys, Payload.Yields (Payload.announcing left right) (Json.integersText ns)
          (.list .signed64) ys) ↔ ∀ m ∈ ns, -0x8000000000000000 ≤ m ∧ m ≤ 0x7FFFFFFFFFFFFFFF) ∧
      ∀ ys, Payload.Yields (Payload.announcing left right) (Json.integersText ns)
        (.list .signed64) ys → ys.map Subtype.val = ns) ∧
    (∀ s : String,
      ((∃ p, Payload.Yields (Payload.announcing left right) (Json.pairText s n)
          (.pair .text .signed64) p) ↔ -0x8000000000000000 ≤ n ∧ n ≤ 0x7FFFFFFFFFFFFFFF) ∧
      ∀ p, Payload.Yields (Payload.announcing left right) (Json.pairText s n)
        (.pair .text .signed64) p → p.1 = s ∧ p.2.val = n) := by
  have hjson : Payload.isJsonContent (Payload.announcing left right) = true :=
    isJsonContent_append left right
  generalize Payload.announcing left right = type at hjson
  have htext : toString n = String.ofList (Json.integerLiteral n).chars := by
    rw [← Json.toList_toString, String.ofList_toList]
  have hdecode : ∀ i : ExactInt,
      Payload.decode type (toString n) = .ok (.json (.number (.integer i))) ↔ i.val = n := by
    intro i
    rw [decode_eq_json_iff hjson, ← Json.parse_eq_ok_iff, htext, Json.parse_literal_eq_ok_iff,
      ← Json.denotes_integerLiteral_iff]
    exact ⟨fun h => by cases h; assumption, .number⟩
  refine ⟨?_, fun i => (hdecode i).mp, ?_, ?_, ?_, ?_, ?_⟩
  · constructor
    · rintro ⟨i, -, rfl, -⟩
      exact ⟨i.lower, i.upper⟩
    · rintro ⟨hlower, hupper⟩
      refine ⟨⟨n, hlower, hupper⟩, (hdecode _).mpr rfl, rfl, ?_⟩
      rw [Payload.compact, Json.toCompactString, Json.compact, Json.write_integer, htext]
  · intro hrange
    rw [decode_of_isJsonContent _ hjson, htext]
    obtain ⟨x, hx, hparse⟩ | ⟨-, e, herror, hcause⟩ := Json.parse_literal (Json.integerLiteral n)
    · cases x with
      | integer i =>
          have hi := Json.denotes_integerLiteral_iff.mp hx
          exact absurd ⟨hi ▸ i.lower, hi ▸ i.upper⟩ hrange
      | real x => exact Or.inl ⟨x, by rw [hparse]; rfl⟩
    · exact Or.inr ⟨e, by rw [herror]; rfl, hcause⟩
  · exact yieldsInRange_integer hjson (by decide) (by decide) n
  · exact yieldsInRange_integer hjson (by decide) (by decide) n
  · intro ns
    have hyields : ∀ ys, Payload.Yields type (Json.integersText ns) (.list .signed64) ys ↔
        ys.map Subtype.val = ns :=
      fun ys => yields_integers_iff hjson (by decide) (by decide)
    simp only [hyields]
    exact ⟨exists_map_val_eq_iff, fun ys => id⟩
  · intro s
    have hyields : ∀ p, Payload.Yields type (Json.pairText s n) (.pair .text .signed64) p ↔
        p.1 = s ∧ p.2.val = n :=
      fun p => yields_pair_iff hjson (by decide) (by decide)
    simp only [hyields]
    refine ⟨?_, fun p => id⟩
    rw [← exists_val_eq_iff]
    constructor
    · rintro ⟨p, -, hp⟩
      exact ⟨p.2, hp⟩
    · rintro ⟨y, hy⟩
      exact ⟨(s, y), rfl, hy⟩

end HttpGet
