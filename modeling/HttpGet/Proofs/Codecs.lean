/-
Values of a type, written and read again.

What a codec writes is put into a text and read back by the real parser, and there the round trip is
not one of documents.  A record is written with its fields as they were declared, which is not the
order in which a decoded object lists them, so the document that comes back may be another one.  It
is the value read from it that is the same.

Reading is more liberal than writing.  But whatever a value was read from, once it is there it is
written like any other value: writing it and reading it again changes nothing more.
-/
import HttpGet.Proofs.Json.InOrder
import HttpGet.Proofs.Traffic

namespace HttpGet

/-! ### What codecs write -/

namespace Codec

variable {α β : Type} {n : Nat}

/-- A value of which the document fits as it is written, and is read as this value. -/
structure Keeps (n : Nat) (c : Codec α) (x : α) : Prop where
  fits : Json.Fits n (c.encode x)
  decode_encode : c.decode (c.encode x) = .ok x

/-- Whether the compact text of a value is one of a document that is read as this value. -/
def RoundTrips (n : Nat) (c : Codec α) (x : α) : Prop :=
  ∃ v, Json.Written n v (Json.compact (c.encode x)) ∧ c.decode v = .ok x

theorem Keeps.roundTrips {c : Codec α} {x : α} (h : Keeps n c x) : RoundTrips n c x :=
  ⟨c.encode x, Json.written_compact h.fits, h.decode_encode⟩

theorem keeps_text (s : String) : Keeps n text s := ⟨.text s, rfl⟩

theorem keeps_flag (b : Bool) : Keeps n flag b := ⟨.flag b, rfl⟩

theorem keeps_unit (x : Unit) : Keeps n unit x := ⟨.null, rfl⟩

theorem keeps_any {v : Json} (h : Json.Fits n v) : Keeps n any v := ⟨h, rfl⟩

/-- A type of integers that 64 bits hold writes an integer as it is. -/
theorem integer_encode (name : String) {low high : Int} (hlow : -0x8000000000000000 ≤ low)
    (hhigh : high < 0x10000000000000000) (y : { m : Int // low ≤ m ∧ m ≤ high }) :
    ∃ i : ExactInt, (integer name low high).encode y = .number (.integer i) ∧ i.val = y.val := by
  have hy := y.property
  refine ⟨⟨y.val, by omega, by omega⟩, ?_, rfl⟩
  have hrange : -0x8000000000000000 ≤ y.val ∧ y.val < 0x10000000000000000 := by omega
  show Json.ofInt y.val = _
  rw [Json.ofInt, ExactInt.ofInt?, dif_pos hrange]

theorem keeps_integer {name : String} {low high : Int} (hlow : -0x8000000000000000 ≤ low)
    (hhigh : high < 0x10000000000000000) (y : { m : Int // low ≤ m ∧ m ≤ high }) :
    Keeps n (integer name low high) y := by
  obtain ⟨i, hencode, hi⟩ := integer_encode name hlow hhigh y
  constructor
  · rw [hencode]
    exact .integer i
  · rw [hencode]
    exact integer_decode_eq_ok_iff.mpr ⟨i, rfl, hi⟩

/-- An absent value is written as null, so a value that is there must not be. -/
theorem keeps_optional {c : Codec α} {x : Option α} (h : ∀ y ∈ x, Keeps n c y)
    (hnull : ∀ y ∈ x, c.encode y ≠ .null) : Keeps n (optional c) x := by
  cases x with
  | none => exact ⟨.null, rfl⟩
  | some y =>
      obtain ⟨hfits, hdecode⟩ := h y rfl
      have hne := hnull y rfl
      refine ⟨hfits, ?_⟩
      show (optional c).decode (c.encode y) = .ok (some y)
      cases hencode : c.encode y with
      | null => exact absurd hencode hne
      | _ => rw [hencode] at hdecode; simp only [optional, hdecode, Except.map]

theorem keeps_pair {a : Codec α} {b : Codec β} {p : α × β} (ha : Keeps n a p.1)
    (hb : Keeps n b p.2) : Keeps (n + 1) (pair a b) p := by
  constructor
  · refine .array ?_
    rintro v (_ | ⟨_, _ | ⟨_, ⟨⟩⟩⟩)
    · exact ha.fits
    · exact hb.fits
  · exact pair_decode_eq_ok_iff.mpr ⟨_, _, rfl, ha.decode_encode, hb.decode_encode⟩

theorem map_decode_eq_ok_iff {c : Codec α} {v : Json} {kvs : List (String × α)} :
    (map c).decode v = .ok kvs ↔ ∃ ms, v = .object ms ∧
      List.Forall₂ (fun m kv => c.decode m.2 = .ok kv.2 ∧ m.1 = kv.1) ms kvs := by
  have hentry : ∀ (m : String × Json) (kv : String × α),
      (c.decode m.2).map (m.1, ·) = .ok kv ↔ c.decode m.2 = .ok kv.2 ∧ m.1 = kv.1 := by
    rintro m ⟨key, x⟩
    cases c.decode m.2 with
    | error e => simp [Except.map]
    | ok y => simp [Except.map, and_comm]
  simp only [← hentry, ← mapM_eq_ok_iff]
  cases v with
  | object ms => simp [map]
  | _ => simp [map]

/-- A map is written in its order, which is that of increasing keys. -/
theorem keeps_map {c : Codec α} {kvs : List (String × α)}
    (hkeys : (kvs.map Prod.fst).Pairwise (· < ·)) (h : ∀ kv ∈ kvs, Keeps n c kv.2) :
    Keeps (n + 1) (map c) kvs := by
  constructor
  · refine .object ?_ ?_
    · rw [Json.keysIncrease, List.map_map]
      exact hkeys
    · intro m hm
      obtain ⟨kv, hkv, rfl⟩ := List.mem_map.mp hm
      exact (h kv hkv).fits
  · refine map_decode_eq_ok_iff.mpr ⟨_, rfl, ?_⟩
    rw [List.forall₂_map_left_iff, List.forall₂_same]
    exact fun kv hkv => ⟨(h kv hkv).decode_encode, rfl⟩

/-- A list is read back if its items are. -/
theorem roundTrips_list {c : Codec α} {xs : List α} (h : ∀ x ∈ xs, RoundTrips n c x) :
    RoundTrips (n + 1) (list c) xs := by
  cases xs with
  | nil => exact ⟨.array [], .array_nil, list_decode_eq_ok_iff.mpr ⟨[], rfl, .nil⟩⟩
  | cons x xs =>
      have hitem : ∀ y ∈ x :: xs, ∃ d : Json.Derivation, d.chars = Json.compact (c.encode y) ∧
          ∃ v, Json.Within n d v ∧ c.decode v = .ok y := by
        intro y hy
        obtain ⟨v, ⟨d, hd, hv⟩, hdecode⟩ := h y hy
        exact ⟨d, hd, v, hv, hdecode⟩
      obtain ⟨items, hitems, hchars⟩ := Json.Derivation.exists_array .none .none hitem
      obtain ⟨vs, hvs, hxs⟩ := exists_middle_of_forall₂ hitems
      refine ⟨.array vs, ⟨.array .none items, ?_, .array hvs⟩,
        list_decode_eq_ok_iff.mpr ⟨vs, rfl, hxs⟩⟩
      show _ = Json.compact (.array (c.encode x :: xs.map c.encode))
      rw [hchars, Json.compact, Json.compactItems_eq, List.map_map]
      rfl

end Codec

/-- A record is written by its fields and read back, although a decoded object has them in another
order. -/
theorem Traffic.roundTrips (n : Nat) (t : Traffic) : Codec.RoundTrips (n + 1) Traffic.codec t := by
  obtain ⟨upload, hencode, hupload⟩ : ∃ i : ExactInt,
      Codec.unsigned64.encode t.upload = .number (.integer i) ∧ i.val = t.upload.val :=
    Codec.integer_encode "u64" (by decide) (by decide) t.upload
  have hk : Json.keysIncrease [("upload", .number (.integer upload)), ("user", .text t.user)] := by
    have hlt : "upload" < "user" := by decide +kernel
    exact Json.keysIncrease_cons.mpr ⟨by simpa using hlt, by simp [Json.keysIncrease]⟩
  have hspellable : Json.Spellable (n + 1)
      (.object [("user", .text t.user), ("upload", .number (.integer upload))]) := by
    refine .object ?_
    intro m hm
    rcases List.mem_cons.mp hm with rfl | hm
    · exact .text t.user
    · rw [List.mem_singleton.mp hm]
      exact .integer upload
  have hordered : (Json.object [("user", .text t.user), ("upload", .number (.integer upload))]).inOrder =
      .object [("upload", .number (.integer upload)), ("user", .text t.user)] := by
    have hlast : Json.ObjectOf [("user", .text t.user), ("upload", .number (.integer upload))]
        [("upload", .number (.integer upload)), ("user", .text t.user)] :=
      (Json.ObjectOf.self hk).perm (Json.nodup_keys hk) (.swap _ _ _)
    exact Json.ofMembers_eq_iff.mpr hlast
  have hwritten := Json.written_inOrder hspellable
  rw [hordered] at hwritten
  refine ⟨_, ?_, (Traffic.decode_object_eq_ok_iff hk).mpr ⟨by simp, upload, by simp, hupload⟩⟩
  show Json.Written (n + 1) _
    (Json.compact (.object [("user", .text t.user), ("upload", Codec.unsigned64.encode t.upload)]))
  rw [hencode]
  exact hwritten

/-! ### Targets -/

namespace Target

/-- Whether no floating point number occurs in a value of a target. -/
def IsRealFree : (t : Target) → t.Carrier → Prop
  | real, _ => False
  | any, v => Json.RealFree v
  | _, _ => True

/-- Whether a value of a target can be written and read again: the keys of a map increase, and a
document has no floating point number, is in order and nests at most 127 deep. -/
def IsWritable : (t : Target) → t.Carrier → Prop
  | real, _ => False
  | unsigned64Map, kvs => (kvs.map Prod.fst).Pairwise (· < ·)
  | any, v => Json.Fits 127 v
  | _, _ => True

theorem roundTrips {t : Target} {x : t.Carrier} (h : t.IsWritable x) :
    Codec.RoundTrips 127 t.codec x := by
  cases t with
  | text => exact (Codec.keeps_text x).roundTrips
  | unsigned64 => exact (Codec.keeps_integer (by decide) (by decide) x).roundTrips
  | signed8 => exact (Codec.keeps_integer (by decide) (by decide) x).roundTrips
  | real => exact h.elim
  | flag => exact (Codec.keeps_flag x).roundTrips
  | unit => exact (Codec.keeps_unit x).roundTrips
  | optionalText =>
      exact (Codec.keeps_optional (fun s _ => Codec.keeps_text s) fun s _ => nofun).roundTrips
  | signed64List =>
      exact Codec.roundTrips_list fun y _ =>
        (Codec.keeps_integer (by decide) (by decide) y).roundTrips
  | pair =>
      exact (Codec.keeps_pair (Codec.keeps_text x.1)
        (Codec.keeps_integer (by decide) (by decide) x.2)).roundTrips
  | unsigned64Map =>
      exact (Codec.keeps_map h fun kv _ =>
        Codec.keeps_integer (by decide) (by decide) kv.2).roundTrips
  | traffic => exact Traffic.roundTrips 126 x
  | traffics => exact Codec.roundTrips_list fun r _ => Traffic.roundTrips 125 r
  | any => exact (Codec.keeps_any h).roundTrips

end Target

/-- Whatever a value has been read from, it can be written and read again. -/
theorem isWritable_of_yields {contentType : Option String} {body : String} {t : Target}
    {x : t.Carrier} (hjson : Payload.isJsonContent contentType = true)
    (h : Payload.Yields contentType body t.codec x) (hx : t.IsRealFree x) : t.IsWritable x := by
  obtain ⟨v, hparse, hdecode⟩ := (yields_iff hjson).mp h
  have hspells := Json.parse_eq_ok_iff.mp hparse
  cases t with
  | real => exact hx
  | unsigned64Map =>
      obtain ⟨ms, rfl, hms⟩ := Codec.map_decode_eq_ok_iff.mp hdecode
      have hkeys : List.Forall₂ Eq (ms.map Prod.fst) (x.map Prod.fst) := by
        rw [List.forall₂_map_left_iff, List.forall₂_map_right_iff]
        exact hms.imp fun m kv hkv => hkv.2
      rw [List.forall₂_eq_eq_eq] at hkeys
      cases hspells.given with
      | object hk _ =>
          show (x.map Prod.fst).Pairwise (· < ·)
          rw [← hkeys]
          exact hk
  | any =>
      obtain rfl : v = x := Except.ok.inj hdecode
      exact hspells.fits hx
  | _ => trivial

/-- **A value of a target without floating point numbers is read back from its compact text.  And a
value that was read from any body is read back from its compact text, so that it is written as
the same text again.** -/
theorem yields_compact (t : Target) (left right : String) :
    (∀ x : t.Carrier, t.IsWritable x →
      Payload.Yields (Payload.announcing left right) (t.codec.encode x).toCompactString t.codec x) ∧
    ∀ left' right' body (x : t.Carrier),
      Payload.Yields (Payload.announcing left' right') body t.codec x → t.IsRealFree x →
        Payload.Yields (Payload.announcing left right) (t.codec.encode x).toCompactString t.codec x := by
  have hwritable : ∀ x : t.Carrier, t.IsWritable x → Payload.Yields (Payload.announcing left right)
      (t.codec.encode x).toCompactString t.codec x := by
    intro x hx
    obtain ⟨v, hwritten, hdecode⟩ := Target.roundTrips hx
    exact (yields_iff (isJsonContent_append left right)).mpr
      ⟨v, Json.parse_eq_ok_iff.mpr hwritten.spells, hdecode⟩
  refine ⟨hwritable, ?_⟩
  intro left' right' body x hyields hx
  exact hwritable x (isWritable_of_yields (isJsonContent_append left' right') hyields hx)

/-- Records that are read from a list and from an object with another member are written as objects
of their fields, and read again from that. -/
theorem yields_compact_traffics :
    Payload.Yields (Payload.announcing "" "")
        "[[\"a\",1],\x7b\"x\":null,\"upload\":2,\"user\":\"b\"\x7d]" Target.traffics.codec
        [⟨"a", 1, by decide⟩, ⟨"b", 2, by decide⟩] ∧
      Payload.Yields (Payload.announcing "" "; charset=utf-8")
        "[\x7b\"user\":\"a\",\"upload\":1\x7d,\x7b\"user\":\"b\",\"upload\":2\x7d]" Target.traffics.codec
        [⟨"a", 1, by decide⟩, ⟨"b", 2, by decide⟩] := by
  have hbody : Payload.Yields (Payload.announcing "" "")
      "[[\"a\",1],\x7b\"x\":null,\"upload\":2,\"user\":\"b\"\x7d]" Target.traffics.codec
      [⟨"a", 1, by decide⟩, ⟨"b", 2, by decide⟩] := by
    refine ⟨.json (.array [.array [.text "a", .number (.integer ⟨1, by decide, by decide⟩)],
      .object [("upload", .number (.integer ⟨2, by decide, by decide⟩)), ("user", .text "b"),
        ("x", .null)]]), ?_, ?_⟩
    · with_unfolding_all rfl
    · with_unfolding_all rfl
  have htext : (Target.traffics.codec.encode
      [⟨"a", 1, by decide⟩, ⟨"b", 2, by decide⟩]).toCompactString =
        "[\x7b\"user\":\"a\",\"upload\":1\x7d,\x7b\"user\":\"b\",\"upload\":2\x7d]" := by
    decide +kernel
  exact ⟨hbody, htext ▸ (yields_compact .traffics "" "; charset=utf-8").2 "" "" _ _ hbody trivial⟩

end HttpGet
