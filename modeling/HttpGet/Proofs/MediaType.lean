/-
The media type among the bytes of a header.

A content type is trimmed and decoded lossily before the media type of JSON is looked for in it, so
the search is among characters that ill-formed bytes may have left.  It finds what a search among
the raw bytes finds: the media type has no U+FFFD and no white space, so no ill-formed part can make
it up or cut it, and trimming takes nothing away from it.  Names of headers are bytes too, and they
are compared without case.
-/
import HttpGet.Network
import HttpGet.Proofs.Decoding
import HttpGet.Proofs.Text.Segmentation

namespace HttpGet

/-! ### White space around a value -/

theorem isInfix_dropWhile_iff {α : Type} {p : α → Bool} {part whole : List α} (hne : part ≠ [])
    (hpart : ∀ x ∈ part, p x = false) : part <:+: whole.dropWhile p ↔ part <:+: whole := by
  constructor
  · intro h
    exact h.trans (List.dropWhile_suffix p).isInfix
  · rintro ⟨before, after, rfl⟩
    obtain ⟨x, part, rfl⟩ := List.exists_cons_of_ne_nil hne
    have hx : p x = false := hpart x List.mem_cons_self
    have hstart : (x :: part ++ after).dropWhile p = x :: part ++ after := by
      rw [List.cons_append, List.dropWhile_cons_of_neg (by simp [hx])]
    rw [List.append_assoc, List.dropWhile_append, hstart]
    split
    · exact ⟨[], after, rfl⟩
    · exact ⟨before.dropWhile p, after, List.append_assoc ..⟩

/-- Trimming leaves whatever has no white space in it. -/
theorem Route.isInfix_trim_iff {part value : List UInt8} (hne : part ≠ [])
    (hpart : ∀ b ∈ part, isHeaderSpace b = false) : part <:+: trim value ↔ part <:+: value := by
  have hreverse : ∀ b ∈ part.reverse, isHeaderSpace b = false := by
    intro b hb
    exact hpart b (List.mem_reverse.mp hb)
  rw [trim, ← List.reverse_infix, List.reverse_reverse,
    isInfix_dropWhile_iff (List.reverse_ne_nil_iff.mpr hne) hreverse, List.reverse_infix,
    isInfix_dropWhile_iff hne hpart]

/-! ### Names -/

/-- Whether a header has a name, compared without case. -/
def Route.HasName (name : String) (header : List UInt8 × List UInt8) : Prop :=
  ∃ text : String, header.1 = Utf8.encode text ∧ text.toLower = name

/-- Letters are put in lower case byte by byte. -/
theorem map_lower_encodeChar (c : Char) :
    (String.utf8EncodeChar c).map Route.lower = String.utf8EncodeChar c.toLower := by
  by_cases hc : c.toNat < 0x80
  · have hascii : ∀ n : Fin 0x80, (String.utf8EncodeChar (Char.ofNat n.val)).map Route.lower =
        String.utf8EncodeChar (Char.ofNat n.val).toLower := by decide
    have h := hascii ⟨c.toNat, hc⟩
    rwa [Char.ofNat_toNat] at h
  · have hlower : c.toLower = c := by
      refine dif_neg fun h => hc (Nat.lt_of_le_of_lt h.2 (by decide))
    have hbytes : ∀ b ∈ String.utf8EncodeChar c, Route.lower b = b := by
      intro b hb
      have hle := Utf8.le_of_mem_encode (Nat.le_of_not_lt hc) hb
      have hletter : ¬ (0x41 ≤ b ∧ b ≤ 0x5A) := by
        simp only [UInt8.le_iff_toNat_le, UInt8.reduceToNat]
        omega
      rw [Route.lower, if_neg (by simpa using hletter)]
    rw [hlower, List.map_congr_left hbytes, List.map_id']

theorem map_lower_encode (text : String) :
    (Utf8.encode text).map Route.lower = Utf8.encode text.toLower := by
  have hchars : text.toLower.toList = text.toList.map Char.toLower := String.toList_map
  rw [Utf8.encode, Utf8.encode, hchars, List.map_flatMap, List.flatMap_map]
  exact List.flatMap_congr fun c _ => map_lower_encodeChar c

theorem lt_of_lower_lt {b : UInt8} (h : (Route.lower b).toNat < 0x80) : b.toNat < 0x80 := by
  unfold Route.lower at h
  split at h
  · rename_i hletter
    simp only [Bool.and_eq_true, decide_eq_true_eq, UInt8.le_iff_toNat_le, UInt8.reduceToNat]
      at hletter
    omega
  · exact h

/-- A name in ASCII is compared by its bytes in lower case. -/
theorem map_lower_eq_iff {name : String} (h : ∀ c ∈ name.toList, c.toNat < 0x80)
    {bytes : List UInt8} :
    bytes.map Route.lower = Utf8.encode name ↔
      ∃ text : String, bytes = Utf8.encode text ∧ text.toLower = name := by
  constructor
  · intro hbytes
    have hascii : ∀ b ∈ bytes, b.toNat < 0x80 := by
      intro b hb
      have hlower : Route.lower b ∈ Utf8.encode name := hbytes ▸ List.mem_map_of_mem hb
      obtain ⟨c, hc, hb⟩ := List.mem_flatMap.mp hlower
      rw [Utf8.encode_of_lt (h c hc), List.mem_singleton] at hb
      refine lt_of_lower_lt ?_
      rw [hb, UInt8.toNat_ofNat_of_lt' (Nat.lt_trans (h c hc) (by decide))]
      exact h c hc
    obtain ⟨text, rfl⟩ := Utf8.exists_encode_of_ascii hascii
    refine ⟨text, rfl, ?_⟩
    rw [map_lower_encode] at hbytes
    rw [← Utf8.decodeLossy_encode text.toLower, hbytes, Utf8.decodeLossy_encode]
  · rintro ⟨text, rfl, rfl⟩
    exact map_lower_encode text

/-! ### The media type of JSON -/

/-- Whether the first content type of a response has the media type of JSON among its bytes. -/
def Route.NamesJson (r : Route) : Prop :=
  ∃ before header after left right, r.headers = before ++ header :: after ∧
    HasName "content-type" header ∧ (∀ h ∈ before, ¬ HasName "content-type" h) ∧
    header.2 = left ++ Utf8.encode Payload.jsonMediaType ++ right

/-- The first header of a name is found, and its value is trimmed. -/
theorem Route.header?_eq_some_iff {r : Route} {name : String}
    (h : ∀ c ∈ name.toList, c.toNat < 0x80) {value : List UInt8} :
    r.header? name = some value ↔ ∃ before header after, r.headers = before ++ header :: after ∧
      HasName name header ∧ (∀ h ∈ before, ¬ HasName name h) ∧ value = trim header.2 := by
  have hname : ∀ header : List UInt8 × List UInt8,
      decide (header.1.map lower = Utf8.encode name) = true ↔ HasName name header := by
    intro header
    rw [decide_eq_true_eq, map_lower_eq_iff h]
    rfl
  rw [header?, Option.map_eq_some_iff]
  simp only [List.find?_eq_some_iff_append, hname, Bool.not_eq_true', ← Bool.not_eq_true]
  constructor
  · rintro ⟨header, ⟨hheader, before, after, hsplit, hbefore⟩, rfl⟩
    exact ⟨before, header, after, hsplit, hheader, hbefore, rfl⟩
  · rintro ⟨before, header, after, hsplit, hheader, hbefore, rfl⟩
    exact ⟨header, ⟨hheader, before, after, hsplit, hbefore⟩, rfl⟩

/-- The media type is found in a value, trimmed and decoded, exactly if its bytes are there. -/
theorem isJsonContent_decodeLossy_iff (value : List UInt8) :
    Payload.isJsonContent (some (Utf8.decodeLossy (Route.trim value))) = true ↔
      ∃ left right, value = left ++ Utf8.encode Payload.jsonMediaType ++ right := by
  have hinfix : ∀ whole : List UInt8, occursIn (Utf8.encode Payload.jsonMediaType) whole = true ↔
      Utf8.encode Payload.jsonMediaType <:+: whole := by
    intro whole
    rw [occursIn_iff]
    exact exists_congr fun left => exists_congr fun right => eq_comm
  have hplain : ∀ b ∈ Utf8.encode Payload.jsonMediaType, Route.isHeaderSpace b = false := by
    decide +kernel
  rw [Payload.isJsonContent, Utf8.occursIn_decodeLossy_iff (by decide) (by decide +kernel), hinfix,
    Route.isInfix_trim_iff (List.ne_nil_of_length_pos (by decide +kernel)) hplain, ← hinfix, occursIn_iff]

theorem isJsonContent_contentType_iff (r : Route) :
    Payload.isJsonContent r.contentType = true ↔ r.NamesJson := by
  have hascii : ∀ c ∈ "content-type".toList, c.toNat < 0x80 := by simp
  constructor
  · intro h
    cases hvalue : r.header? "content-type" with
    | none => simp [Route.contentType, hvalue, Payload.isJsonContent] at h
    | some value =>
        obtain ⟨before, header, after, hsplit, hheader, hbefore, rfl⟩ :=
          (Route.header?_eq_some_iff hascii).mp hvalue
        rw [Route.contentType, hvalue, Option.map_some, isJsonContent_decodeLossy_iff] at h
        obtain ⟨left, right, hbytes⟩ := h
        exact ⟨before, header, after, left, right, hsplit, hheader, hbefore, hbytes⟩
  · rintro ⟨before, header, after, left, right, hsplit, hheader, hbefore, hbytes⟩
    have hvalue : r.header? "content-type" = some (Route.trim header.2) :=
      (Route.header?_eq_some_iff hascii).mpr ⟨before, header, after, hsplit, hheader, hbefore, rfl⟩
    rw [Route.contentType, hvalue, Option.map_some, isJsonContent_decodeLossy_iff]
    exact ⟨left, right, hbytes⟩

/-- **The body of a response is decoded as JSON exactly if the bytes of the media type stand in the
value of its first content type, whatever the bytes around them are; and otherwise it is a text.** -/
theorem decode_json_iff_bytes (r : Route) :
    (∀ value, Payload.isJsonContent (some (Utf8.decodeLossy (Route.trim value))) = true ↔
      ∃ left right, value = left ++ Utf8.encode "application/json" ++ right) ∧
    ∀ body,
      (Payload.decode r.contentType body = (Json.parse body).map .json ↔ r.NamesJson) ∧
      (Payload.decode r.contentType body = .ok (.text body) ↔ ¬ r.NamesJson) := by
  refine ⟨isJsonContent_decodeLossy_iff, fun body => ?_⟩
  have hjson := isJsonContent_contentType_iff r
  have hne : (Json.parse body).map Payload.json ≠ .ok (Payload.text body) := by
    cases Json.parse body with
    | error e => simp [Except.map]
    | ok v => simp [Except.map]
  by_cases h : r.NamesJson
  · rw [decode_of_isJsonContent body (hjson.mpr h)]
    exact ⟨iff_of_true rfl h, iff_of_false hne (not_not_intro h)⟩
  · rw [Payload.decode, if_neg (mt hjson.mp h)]
    exact ⟨iff_of_false hne.symm h, iff_of_true rfl h⟩

/-- Bytes that are no UTF-8, right before the media type and after it. -/
example : Payload.isJsonContent (some (Utf8.decodeLossy (Route.trim
    ([0x20, 0xE2, 0x82] ++ Utf8.encode "application/json" ++ [0xC3, 0x20])))) = true := by
  decide +kernel

end HttpGet
