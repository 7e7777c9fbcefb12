/-
The one segmentation of a byte sequence.

Any bytes can be cut into the encodings of characters and maximal ill-formed parts, in one way only.
A part is ill formed where no character is encoded, and it is maximal because every longer beginning
of what stands there begins no character; a byte with which none begins is a part of its own.  None
of this mentions a decoder.  The lossy decoding is the text of that segmentation, with U+FFFD for
every ill-formed part.

An ill-formed part never reaches over a byte that may begin a character.  So what is decoded before
such a byte does not depend on what comes after it, and a well-formed text stays what it is wherever
it stands among other bytes.
-/
import Mathlib.Data.List.Basic
import HttpGet.Proofs.Text.Encoding
import HttpGet.Text.Search

namespace HttpGet.Utf8

/-! ### Parts -/

/-- Bytes that are a maximal ill-formed part where `rest` comes after them. -/
structure IllFormed (part rest : List UInt8) : Prop where
  noCharacter : ∀ c, ¬ String.utf8EncodeChar c <+: part ++ rest
  nonempty : part ≠ []
  begins : Begins part ∨ part.length = 1
  longest : ∀ more, more <+: part ++ rest → Begins more → more.length ≤ part.length

/-- A part of a byte sequence: a character, or bytes that are ill formed. -/
inductive Part where
  | character (c : Char)
  | illFormed (bytes : List UInt8)

namespace Part

/-- The bytes of a part. -/
def bytes : Part → List UInt8
  | character c => String.utf8EncodeChar c
  | illFormed bytes => bytes

/-- The character of a part, unless it is ill formed. -/
def char? : Part → Option Char
  | character c => some c
  | illFormed _ => none

/-- The character in the place of a part. -/
def char (p : Part) : Char := p.char?.getD replacement

/-- Whether a part may stand before other bytes. -/
def StandsBefore (rest : List UInt8) : Part → Prop
  | character _ => True
  | illFormed bytes => IllFormed bytes rest

end Part

/-- Whether a byte sequence is cut into these parts. -/
def IsSegmentation : List Part → List UInt8 → Prop
  | [], bytes => bytes = []
  | part :: parts, bytes =>
    ∃ rest, bytes = part.bytes ++ rest ∧ part.StandsBefore rest ∧ IsSegmentation parts rest

/-- The parts of a byte sequence are all of it. -/
theorem IsSegmentation.flatMap_bytes {parts : List Part} {bytes : List UInt8}
    (h : IsSegmentation parts bytes) : parts.flatMap Part.bytes = bytes := by
  induction parts generalizing bytes with
  | nil => exact h.symm
  | cons part parts ih =>
      obtain ⟨rest, rfl, -, hrest⟩ := h
      rw [List.flatMap_cons, ih hrest]

theorem Part.bytes_ne_nil {part : Part} {rest : List UInt8} (h : part.StandsBefore rest) :
    part.bytes ≠ [] := by
  cases part with
  | character c =>
      obtain ⟨b, s, hc⟩ := exists_encode_eq_cons c
      intro hnil
      rw [Part.bytes, hc] at hnil
      exact absurd hnil (by simp)
  | illFormed bytes => exact h.nonempty

/-! ### There is only one segmentation -/

/-- No encoding of a character begins with that of another. -/
theorem eq_of_encode_append {c c' : Char} {rest rest' : List UInt8}
    (h : String.utf8EncodeChar c ++ rest = String.utf8EncodeChar c' ++ rest') : c = c' := by
  obtain ⟨b, s, hc⟩ := exists_encode_eq_cons c
  have hfirst : segment b (s ++ rest) = (some c.toNat, rest) :=
    segment_eq_some_iff.mpr ⟨c, rfl, by rw [hc, List.cons_append]⟩
  have hsecond : segment b (s ++ rest) = (some c'.toNat, rest') :=
    segment_eq_some_iff.mpr ⟨c', rfl, by rw [← h, hc, List.cons_append]⟩
  rw [hfirst, Prod.mk.injEq, Option.some.injEq] at hsecond
  rw [← Char.ofNat_toNat c, hsecond.1, Char.ofNat_toNat]

/-- Of two ill-formed parts at the same place neither is longer. -/
theorem IllFormed.length_le {part part' rest rest' : List UInt8} (h : IllFormed part rest)
    (h' : IllFormed part' rest') (heq : part ++ rest = part' ++ rest') :
    part'.length ≤ part.length := by
  rcases h'.begins with hbegins | hlength
  · exact h.longest part' (heq ▸ List.prefix_append part' rest') hbegins
  · rw [hlength]
    exact List.length_pos_iff.mpr h.nonempty

theorem Part.eq_of_standsBefore {part part' : Part} {rest rest' : List UInt8}
    (h : part.StandsBefore rest) (h' : part'.StandsBefore rest')
    (heq : part.bytes ++ rest = part'.bytes ++ rest') : part = part' := by
  cases part with
  | character c =>
      cases part' with
      | character c' => rw [eq_of_encode_append heq]
      | illFormed bytes' =>
          exact absurd (heq ▸ List.prefix_append (String.utf8EncodeChar c) rest) (h'.noCharacter c)
  | illFormed bytes =>
      cases part' with
      | character c' =>
          exact absurd (heq ▸ List.prefix_append (String.utf8EncodeChar c') rest') (h.noCharacter c')
      | illFormed bytes' =>
          have hlength : bytes.length = bytes'.length :=
            Nat.le_antisymm (IllFormed.length_le h' h heq.symm) (IllFormed.length_le h h' heq)
          exact congrArg illFormed (List.append_inj heq hlength).1

/-- **A byte sequence is cut into parts in one way.** -/
theorem IsSegmentation.unique {parts parts' : List Part} {bytes : List UInt8}
    (h : IsSegmentation parts bytes) (h' : IsSegmentation parts' bytes) : parts = parts' := by
  induction parts generalizing parts' bytes with
  | nil =>
      cases parts' with
      | nil => rfl
      | cons part' parts' =>
          obtain ⟨rest', hbytes, hpart', -⟩ := h'
          rw [h] at hbytes
          exact absurd (List.append_eq_nil_iff.mp hbytes.symm).1 (Part.bytes_ne_nil hpart')
  | cons part parts ih =>
      obtain ⟨rest, rfl, hpart, hrest⟩ := h
      cases parts' with
      | nil => exact absurd (List.append_eq_nil_iff.mp h').1 (Part.bytes_ne_nil hpart)
      | cons part' parts' =>
          obtain ⟨rest', heq, hpart', hrest'⟩ := h'
          obtain rfl := Part.eq_of_standsBefore hpart hpart' heq
          obtain rfl := List.append_cancel_left heq
          rw [ih hrest hrest']

/-! ### The segments that are read -/

/-- A segment that is no character is an ill-formed part. -/
theorem exists_illFormed {b : UInt8} {s rest : List UInt8} (h : segment b s = (none, rest)) :
    ∃ part, b :: s = part ++ rest ∧ IllFormed part rest := by
  obtain ⟨part, rfl, hbegins, hlongest⟩ := segment_eq_none h
  refine ⟨b :: part, rfl, ?_, by simp, ?_, hlongest⟩
  · rintro c ⟨unread, hc⟩
    have hsome : segment b (part ++ rest) = (some c.toNat, unread) :=
      segment_eq_some_iff.mpr ⟨c, rfl, hc.symm⟩
    rw [h] at hsome
    exact absurd hsome (by simp)
  · rcases hbegins with hbegins | rfl
    · exact Or.inl hbegins
    · exact Or.inr rfl

/-- The segments that are read are those of a segmentation. -/
theorem exists_segmentation (bytes : List UInt8) :
    ∃ parts, IsSegmentation parts bytes ∧ segments bytes = parts.map Part.char? := by
  induction h : bytes.length using Nat.strongRecOn generalizing bytes with
  | _ n ih =>
      cases bytes with
      | nil => exact ⟨[], rfl, by rw [segments, List.map_nil]⟩
      | cons b s =>
          have hless : (segment b s).2.length < n :=
            h ▸ Nat.lt_succ_of_le (length_segment_le b s)
          obtain ⟨parts, hparts, hrest⟩ := ih _ hless _ rfl
          rw [segments, hrest]
          cases hsegment : segment b s with
          | mk code? rest =>
              rw [hsegment] at hparts
              cases code? with
              | some code =>
                  obtain ⟨c, rfl, hc⟩ := segment_eq_some_iff.mp hsegment
                  refine ⟨.character c :: parts, ⟨rest, hc, trivial, hparts⟩, ?_⟩
                  rw [List.map_cons, Option.map_some, Char.ofNat_toNat, Part.char?]
              | none =>
                  obtain ⟨part, hpart, hill⟩ := exists_illFormed hsegment
                  refine ⟨.illFormed part :: parts, ⟨rest, hpart, hill, hparts⟩, ?_⟩
                  rw [List.map_cons, Option.map_none, Part.char?]

/-- **The lossy decoding is the text of the segmentation.** -/
theorem decodeLossy_of_isSegmentation {parts : List Part} {bytes : List UInt8}
    (h : IsSegmentation parts bytes) : decodeLossy bytes = String.ofList (parts.map Part.char) := by
  obtain ⟨parts', hparts', hsegments⟩ := exists_segmentation bytes
  obtain rfl := h.unique hparts'
  rw [decodeLossy, hsegments, List.map_map]
  rfl

/-! ### Parts next to each other -/

/-- Whether some bytes, if there are any, begin with one that no character ends with. -/
def IsBoundary (bytes : List UInt8) : Prop :=
  ∀ b ∈ bytes.head?, b.toNat < 0x80 ∨ 0xC0 ≤ b.toNat

theorem isBoundary_encode (c : Char) (rest : List UInt8) :
    IsBoundary (String.utf8EncodeChar c ++ rest) := by
  obtain ⟨b, n, hlayout⟩ := exists_layout c
  rw [encode_of_layout hlayout]
  intro b' hb'
  rw [List.cons_append, List.head?_cons, Option.mem_some_iff] at hb'
  exact hb' ▸ hlayout.lead

/-- An ill-formed part does not reach over a boundary: after its first byte, the beginning of a
character has trailing bytes only. -/
theorem IllFormed.append {part rest bytes : List UInt8} (h : IllFormed part rest)
    (hbytes : IsBoundary bytes) : IllFormed part (rest ++ bytes) := by
  have hwithin : ∀ more, more <+: part ++ (rest ++ bytes) → Begins more → more <+: part ++ rest := by
    rintro more hmore ⟨c, hc⟩
    rw [← List.append_assoc] at hmore
    rcases List.prefix_or_prefix_of_prefix hmore (List.prefix_append (part ++ rest) bytes) with
      hshort | ⟨after, rfl⟩
    · exact hshort
    · rw [List.prefix_append_right_inj] at hmore
      cases after with
      | nil => simp
      | cons b after =>
          obtain ⟨unread, hunread⟩ := hc
          obtain ⟨first, part, rfl⟩ := List.exists_cons_of_ne_nil h.nonempty
          obtain ⟨n, -, htrailing⟩ := encode_eq_cons_iff.mp hunread.symm
          have hb : b ∈ trailing n c.toNat := by
            rw [← htrailing]
            simp
          obtain ⟨after', rfl⟩ := hmore
          have hlead := hbytes b rfl
          have htrail := mem_trailing hb
          omega
  refine ⟨?_, h.nonempty, h.begins, ?_⟩
  · intro c hc
    exact h.noCharacter c (hwithin _ hc ⟨c, List.prefix_rfl⟩)
  · intro more hmore hbegins
    exact h.longest more (hwithin more hmore hbegins) hbegins

/-- Segmentations that meet at a boundary make one. -/
theorem IsSegmentation.append {parts parts' : List Part} {bytes bytes' : List UInt8}
    (h : IsSegmentation parts bytes) (h' : IsSegmentation parts' bytes')
    (hbytes' : IsBoundary bytes') : IsSegmentation (parts ++ parts') (bytes ++ bytes') := by
  induction parts generalizing bytes with
  | nil =>
      obtain rfl : bytes = [] := h
      exact h'
  | cons part parts ih =>
      obtain ⟨rest, rfl, hpart, hrest⟩ := h
      refine ⟨rest ++ bytes', by rw [List.append_assoc], ?_, ih hrest⟩
      cases part with
      | character c => trivial
      | illFormed bytes => exact IllFormed.append hpart hbytes'

theorem decodeLossy_append {bytes bytes' : List UInt8} (h : IsBoundary bytes') :
    decodeLossy (bytes ++ bytes') = decodeLossy bytes ++ decodeLossy bytes' := by
  obtain ⟨parts, hparts, -⟩ := exists_segmentation bytes
  obtain ⟨parts', hparts', -⟩ := exists_segmentation bytes'
  rw [decodeLossy_of_isSegmentation (hparts.append hparts' h), decodeLossy_of_isSegmentation hparts,
    decodeLossy_of_isSegmentation hparts', List.map_append, String.ofList_append]

/-! ### Texts among other bytes -/

/-- The characters of a text are a segmentation of its bytes, whatever comes after them. -/
theorem isSegmentation_encode_append (text : String) {parts : List Part} {bytes : List UInt8}
    (h : IsSegmentation parts bytes) :
    IsSegmentation (text.toList.map Part.character ++ parts) (encode text ++ bytes) := by
  unfold encode
  induction text.toList with
  | nil => exact h
  | cons c cs ih =>
      refine ⟨_, ?_, trivial, ih⟩
      rw [List.flatMap_cons, List.append_assoc]
      rfl

theorem decodeLossy_encode_append (text : String) (bytes : List UInt8) :
    decodeLossy (encode text ++ bytes) = text ++ decodeLossy bytes := by
  obtain ⟨parts, hparts, -⟩ := exists_segmentation bytes
  have hchars : (text.toList.map Part.character).map Part.char = text.toList := by
    rw [List.map_map]
    exact List.map_id text.toList
  rw [decodeLossy_of_isSegmentation (isSegmentation_encode_append text hparts),
    decodeLossy_of_isSegmentation hparts, List.map_append, hchars, String.ofList_append,
    String.ofList_toList]

/-- The segments of the bytes of a text are its characters. -/
theorem segments_encode (text : String) : segments (encode text) = text.toList.map some := by
  have h : IsSegmentation (text.toList.map Part.character ++ []) (encode text ++ []) :=
    isSegmentation_encode_append text rfl
  rw [List.append_nil, List.append_nil] at h
  obtain ⟨parts, hparts, hsegments⟩ := exists_segmentation (encode text)
  rw [hsegments, ← h.unique hparts, List.map_map]
  rfl

/-- A text is the lossy decoding of its bytes. -/
theorem decodeLossy_encode (text : String) : decodeLossy (encode text) = text := by
  rw [decodeLossy, segments_encode, List.map_map]
  exact (congrArg String.ofList (List.map_id text.toList)).trans String.ofList_toList

/-- A text is the strict decoding of its bytes. -/
theorem decode?_encode (text : String) : decode? (encode text) = some text := by
  have hall : (text.toList.map some).all Option.isSome = true := by simp
  simp only [decode?, segments_encode, if_pos hall, List.filterMap_map]
  exact congrArg some (by simp)

/-- Parts that are all characters are the bytes of these characters. -/
theorem flatMap_bytes_of_all_isSome {parts : List Part}
    (h : (parts.map Part.char?).all Option.isSome = true) :
    parts.flatMap Part.bytes =
      ((parts.map Part.char?).filterMap id).flatMap String.utf8EncodeChar := by
  induction parts with
  | nil => rfl
  | cons part parts ih =>
      rw [List.map_cons, List.all_cons, Bool.and_eq_true] at h
      cases part with
      | character c =>
          rw [List.flatMap_cons, ih h.2]
          rfl
      | illFormed bytes => exact absurd h.1 Bool.false_ne_true

/-- The strict decoding reads the bytes of texts and nothing else. -/
theorem decode?_eq_some_iff {bytes : List UInt8} {text : String} :
    decode? bytes = some text ↔ bytes = encode text := by
  constructor
  · intro h
    obtain ⟨parts, hparts, hsegments⟩ := exists_segmentation bytes
    simp only [decode?, hsegments, Option.ite_none_right_eq_some, Option.some.injEq] at h
    obtain ⟨hall, rfl⟩ := h
    rw [← hparts.flatMap_bytes, flatMap_bytes_of_all_isSome hall, encode, String.toList_ofList]
  · rintro rfl
    exact decode?_encode text

/-- ASCII bytes are those of a text. -/
theorem exists_encode_of_ascii {bytes : List UInt8} (h : ∀ b ∈ bytes, b.toNat < 0x80) :
    ∃ text, bytes = encode text := by
  refine ⟨String.ofList (bytes.map fun b => Char.ofNat b.toNat), ?_⟩
  have hbyte : ∀ b ∈ bytes, String.utf8EncodeChar (Char.ofNat b.toNat) = [b] := by
    intro b hb
    have hcode : (Char.ofNat b.toNat).toNat = b.toNat :=
      toNat_ofNat (Or.inl (Nat.lt_trans (h b hb) (by decide)))
    rw [encode_of_lt (by rw [hcode]; exact h b hb), hcode, UInt8.ofNat_toNat]
  rw [encode, String.toList_ofList, List.flatMap_map, List.flatMap_congr hbyte,
    List.flatMap_singleton']

theorem isBoundary_encode_append {text : String} (h : text ≠ "") (bytes : List UInt8) :
    IsBoundary (encode text ++ bytes) := by
  cases hcs : text.toList with
  | nil => exact absurd (String.toList_eq_nil_iff.mp hcs) h
  | cons c cs =>
      rw [encode, hcs, List.flatMap_cons, List.append_assoc]
      exact isBoundary_encode c _

/-- **A text that stands among other bytes stands in what they are decoded to, between what the
bytes before it and those after it are decoded to.** -/
theorem decodeLossy_around {text : String} (h : text ≠ "") (before after : List UInt8) :
    decodeLossy (before ++ encode text ++ after) =
      decodeLossy before ++ text ++ decodeLossy after := by
  rw [List.append_assoc, decodeLossy_append (isBoundary_encode_append h after),
    decodeLossy_encode_append, String.append_assoc]

/-- **A text without U+FFFD occurs in what some bytes are decoded to exactly if its bytes occur
among them.** -/
theorem occursIn_decodeLossy_iff {text : String} (h : text ≠ "") (hplain : replacement ∉ text.toList)
    (bytes : List UInt8) :
    occursIn text.toList (decodeLossy bytes).toList = true ↔ occursIn (encode text) bytes = true := by
  rw [occursIn_iff, occursIn_iff]
  constructor
  · rintro ⟨before, after, hdecoded⟩
    obtain ⟨parts, hparts, -⟩ := exists_segmentation bytes
    rw [decodeLossy_of_isSegmentation hparts, String.toList_ofList, List.map_eq_append_iff] at hdecoded
    obtain ⟨left, right, rfl, hleft, -⟩ := hdecoded
    obtain ⟨left, middle, rfl, -, hmiddle⟩ := List.map_eq_append_iff.mp hleft
    -- a part in the middle has not U+FFFD in its place, so it is a character
    have hcharacter : ∀ part ∈ middle, part.bytes = String.utf8EncodeChar part.char := by
      intro part hpart
      cases part with
      | character c => rfl
      | illFormed bytes =>
          have hmem : replacement ∈ middle.map Part.char := List.mem_map_of_mem hpart
          exact absurd (hmiddle ▸ hmem) hplain
    have hbytes : middle.flatMap Part.bytes = encode text := by
      rw [encode, ← hmiddle, List.flatMap_map]
      exact List.flatMap_congr hcharacter
    refine ⟨left.flatMap Part.bytes, right.flatMap Part.bytes, ?_⟩
    rw [← hparts.flatMap_bytes, List.flatMap_append, List.flatMap_append, hbytes]
  · rintro ⟨before, after, rfl⟩
    refine ⟨(decodeLossy before).toList, (decodeLossy after).toList, ?_⟩
    rw [decodeLossy_around h, String.toList_append, String.toList_append]

end HttpGet.Utf8
