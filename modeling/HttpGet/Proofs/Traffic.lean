/-
Which values are records of traffic.

Reading folds over the members of an object, and a field that has been read may be read again.  In a
decoded value no key occurs twice, so the fold comes to what two lookups come to, whatever other
members there are and wherever they stand.  A list of records is read only if every item is one;
otherwise the first that is none tells the error.
-/
import HttpGet.Proofs.Integers
import HttpGet.Proofs.Json.Legibility
import HttpGet.Proofs.Lookup

namespace HttpGet

namespace Traffic

/-- Whether a value tells a user and an upload: as the members of an object, among any others, or as
a list of two. -/
inductive Tells : Json → String → ExactInt → Prop
  | members {ms : List (String × Json)} {user : String} {upload : ExactInt}
      (huser : ("user", .text user) ∈ ms) (hupload : ("upload", .number (.integer upload)) ∈ ms) :
      Tells (.object ms) user upload
  | fields (user : String) (upload : ExactInt) :
      Tells (.array [.text user, .number (.integer upload)]) user upload

/-! ### The fields of an object -/

namespace Fields

/-- Whether a field is what a member gives, if there is one, and otherwise what it was. -/
def Takes {α : Type} (c : Codec α) (value? : Option Json) (before after : Option α) : Prop :=
  match value? with
  | none => after = before
  | some v => ∃ x, c.decode v = .ok x ∧ after = some x

/-- Whether the fields are those after some members. -/
structure After (f : Fields) (ms : List (String × Json)) (f' : Fields) : Prop where
  user : Takes Codec.text (ms.lookup "user") f.user f'.user
  upload : Takes Codec.unsigned64 (ms.lookup "upload") f.upload f'.upload

/-- Reading a member takes the field of its name. -/
theorem read_eq_ok_iff {f f' : Fields} {m : String × Json} :
    f.read m = .ok f' ↔ f.After [m] f' := by
  obtain ⟨key, v⟩ := m
  obtain ⟨user, upload⟩ := f
  obtain ⟨user', upload'⟩ := f'
  have hafter : Fields.After ⟨user, upload⟩ [(key, v)] ⟨user', upload'⟩ ↔
      Takes Codec.text (if "user" = key then some v else none) user user' ∧
        Takes Codec.unsigned64 (if "upload" = key then some v else none) upload upload' := by
    constructor
    · rintro ⟨huser, hupload⟩
      rw [lookup_cons_eq] at huser hupload
      exact ⟨huser, hupload⟩
    · rintro ⟨huser, hupload⟩
      refine ⟨?_, ?_⟩ <;> rw [lookup_cons_eq]
      · exact huser
      · exact hupload
  rw [hafter, read]
  by_cases huser : key = "user"
  · subst huser
    cases hv : Codec.text.decode v with
    | error e => simp [Takes, Except.map, hv]
    | ok s => simp [Takes, Except.map, hv, eq_comm]
  · by_cases hupload : key = "upload"
    · subst hupload
      cases hv : Codec.unsigned64.decode v with
      | error e => simp [Takes, Except.map, hv]
      | ok n => simp [Takes, Except.map, hv, eq_comm]
    · simp [Takes, huser, hupload, Ne.symm huser, Ne.symm hupload, eq_comm]

/-- A member in front is taken before the others, if none of them has its name. -/
theorem takes_cons_iff {α : Type} {c : Codec α} {key name : String} {v : Json}
    {ms : List (String × Json)} (h : ms.lookup key = none) {before after : Option α} :
    Takes c (((key, v) :: ms).lookup name) before after ↔
      ∃ mid, Takes c ([(key, v)].lookup name) before mid ∧ Takes c (ms.lookup name) mid after := by
  rw [lookup_cons_eq, lookup_cons_eq]
  by_cases hname : name = key
  · rw [if_pos hname, if_pos hname, hname, h]
    simp [Takes]
  · rw [if_neg hname, if_neg hname]
    simp [Takes]

theorem after_cons_iff {f f' : Fields} {key : String} {v : Json} {ms : List (String × Json)}
    (h : ms.lookup key = none) :
    f.After ((key, v) :: ms) f' ↔ ∃ g, f.read (key, v) = .ok g ∧ g.After ms f' := by
  simp only [read_eq_ok_iff]
  constructor
  · rintro ⟨huser, hupload⟩
    obtain ⟨user, huser, huser'⟩ := (takes_cons_iff h).mp huser
    obtain ⟨upload, hupload, hupload'⟩ := (takes_cons_iff h).mp hupload
    exact ⟨⟨user, upload⟩, ⟨huser, hupload⟩, ⟨huser', hupload'⟩⟩
  · rintro ⟨g, hread, hrest⟩
    exact ⟨(takes_cons_iff h).mpr ⟨g.user, hread.user, hrest.user⟩,
      (takes_cons_iff h).mpr ⟨g.upload, hread.upload, hrest.upload⟩⟩

/-- Where keys do not repeat, reading the members takes for each field the member of its name. -/
theorem foldlM_read_eq_ok_iff {ms : List (String × Json)} (h : Json.keysIncrease ms)
    {f f' : Fields} : ms.foldlM read f = .ok f' ↔ f.After ms f' := by
  induction ms generalizing f with
  | nil =>
      obtain ⟨user, upload⟩ := f
      obtain ⟨user', upload'⟩ := f'
      constructor
      · intro hread
        obtain ⟨rfl, rfl⟩ := Fields.mk.inj (Except.ok.inj hread)
        exact ⟨rfl, rfl⟩
      · rintro ⟨huser, hupload⟩
        simp only [Takes, List.lookup_nil] at huser hupload
        rw [huser, hupload]
        rfl
  | cons m ms ih =>
      obtain ⟨key, v⟩ := m
      obtain ⟨hlt, hms⟩ := Json.keysIncrease_cons.mp h
      have hother : ms.lookup key = none := lookup_eq_none_of_lt hlt
      rw [after_cons_iff hother, List.foldlM_cons]
      cases hread : f.read (key, v) with
      | error e => simp [bind, Except.bind]
      | ok g => simp [bind, Except.bind, ih hms]

end Fields

/-! ### Records -/

theorem Fields.takes_none_iff {α : Type} {c : Codec α} {value? : Option Json} {x : α} :
    Takes c value? none (some x) ↔ ∃ v, value? = some v ∧ c.decode v = .ok x := by
  cases value? with
  | none => simp [Takes]
  | some v => simp [Takes]

theorem Fields.record_eq_ok_iff {f : Fields} {t : Traffic} :
    f.record = .ok t ↔ f = ⟨some t.user, some t.upload⟩ := by
  obtain ⟨user, upload⟩ := f
  obtain ⟨user', upload'⟩ := t
  cases user with
  | none => simp [record]
  | some user =>
      cases upload with
      | none => simp [record]
      | some upload => simp [record]

/-- An object is read as a record by the members of its two fields. -/
theorem decode_object_eq_ok_iff {ms : List (String × Json)} (h : Json.keysIncrease ms)
    {t : Traffic} : codec.decode (.object ms) = .ok t ↔ ("user", .text t.user) ∈ ms ∧
      ∃ upload : ExactInt, ("upload", .number (.integer upload)) ∈ ms ∧
        upload.val = t.upload.val := by
  have hfields : codec.decode (.object ms) = .ok t ↔
      Fields.After ⟨none, none⟩ ms ⟨some t.user, some t.upload⟩ := by
    rw [← Fields.foldlM_read_eq_ok_iff h]
    show (ms.foldlM Fields.read ⟨none, none⟩ >>= Fields.record) = .ok t ↔ _
    cases ms.foldlM Fields.read ⟨none, none⟩ with
    | error e => simp [bind, Except.bind]
    | ok f => simp [bind, Except.bind, Fields.record_eq_ok_iff]
  have hmem : ∀ {key v}, ms.lookup key = some v ↔ (key, v) ∈ ms :=
    lookup_eq_some_iff_mem (Json.nodup_keys h)
  rw [hfields]
  constructor
  · rintro ⟨huser, hupload⟩
    obtain ⟨v, hv, hdecode⟩ := Fields.takes_none_iff.mp huser
    obtain rfl := Codec.text_decode_eq_ok_iff.mp hdecode
    obtain ⟨w, hw, hdecode⟩ := Fields.takes_none_iff.mp hupload
    obtain ⟨upload, rfl, hupload⟩ := Codec.integer_decode_eq_ok_iff.mp hdecode
    exact ⟨hmem.mp hv, upload, hmem.mp hw, hupload⟩
  · rintro ⟨huser, upload, hw, hupload⟩
    exact ⟨Fields.takes_none_iff.mpr ⟨_, hmem.mpr huser, Codec.text_decode_eq_ok_iff.mpr rfl⟩,
      Fields.takes_none_iff.mpr
        ⟨_, hmem.mpr hw, Codec.integer_decode_eq_ok_iff.mpr ⟨upload, rfl, hupload⟩⟩⟩

/-- A list is read as a record by its two items. -/
theorem decode_array_eq_ok_iff {vs : List Json} {t : Traffic} :
    codec.decode (.array vs) = .ok t ↔ ∃ upload : ExactInt,
      vs = [.text t.user, .number (.integer upload)] ∧ upload.val = t.upload.val := by
  have hfields : codec.decode (.array vs) = .ok t ↔
      ∃ p : String × Codec.Unsigned64, Codec.decodeTwo Codec.text Codec.unsigned64
        (Mismatch.recordOf "Traffic" 2) vs = .ok p ∧ (⟨p.1, p.2⟩ : Traffic) = t := by
    show (Codec.decodeTwo Codec.text Codec.unsigned64 (Mismatch.recordOf "Traffic" 2) vs).map
      (fun p => (⟨p.1, p.2⟩ : Traffic)) = .ok t ↔ _
    cases Codec.decodeTwo Codec.text Codec.unsigned64 (Mismatch.recordOf "Traffic" 2) vs with
    | error e => simp [Except.map]
    | ok p => simp [Except.map]
  rw [hfields]
  constructor
  · rintro ⟨p, hp, rfl⟩
    obtain ⟨u, v, rfl, hu, hv⟩ := Codec.decodeTwo_eq_ok_iff.mp hp
    obtain rfl := Codec.text_decode_eq_ok_iff.mp hu
    obtain ⟨upload, rfl, hupload⟩ := Codec.integer_decode_eq_ok_iff.mp hv
    exact ⟨upload, rfl, hupload⟩
  · rintro ⟨upload, rfl, hupload⟩
    exact ⟨⟨t.user, t.upload⟩, Codec.decodeTwo_eq_ok_iff.mpr ⟨_, _, rfl, Codec.text_decode_eq_ok_iff.mpr rfl,
      Codec.integer_decode_eq_ok_iff.mpr ⟨upload, rfl, hupload⟩⟩, rfl⟩

/-- **A value of a payload is read as a record exactly if it tells the fields of it.** -/
theorem decode_eq_ok_iff {n : Nat} {v : Json} (h : Json.Given n v) {t : Traffic} :
    codec.decode v = .ok t ↔ ∃ upload, Tells v t.user upload ∧ upload.val = t.upload.val := by
  cases h with
  | object hk _ =>
      rw [decode_object_eq_ok_iff hk]
      constructor
      · rintro ⟨huser, upload, hmem, hupload⟩
        exact ⟨upload, .members huser hmem, hupload⟩
      · rintro ⟨upload, ⟨huser, hmem⟩, hupload⟩
        exact ⟨huser, upload, hmem, hupload⟩
  | array _ =>
      rw [decode_array_eq_ok_iff]
      constructor
      · rintro ⟨upload, rfl, hupload⟩
        exact ⟨upload, .fields t.user upload, hupload⟩
      · rintro ⟨upload, ⟨⟩, hupload⟩
        exact ⟨upload, rfl, hupload⟩
  | _ =>
      refine iff_of_false (by simp [codec]) ?_
      rintro ⟨upload, htells, -⟩
      cases htells

/-- Whether a value is a record: it tells a user, and an upload that the type of uploads has. -/
def IsRecord (v : Json) : Prop :=
  ∃ user upload, Tells v user upload ∧ 0 ≤ upload.val ∧ upload.val < 0x10000000000000000

theorem exists_decode_iff {n : Nat} {v : Json} (h : Json.Given n v) :
    (∃ t, codec.decode v = .ok t) ↔ IsRecord v := by
  simp only [decode_eq_ok_iff h]
  constructor
  · rintro ⟨t, upload, htells, hupload⟩
    have hrange := t.upload.property
    exact ⟨t.user, upload, htells, by omega, by omega⟩
  · rintro ⟨user, upload, htells, hlow, hhigh⟩
    exact ⟨⟨user, upload.val, hlow, by omega⟩, upload, htells, rfl⟩

end Traffic

/-! ### Lists of records -/

theorem given_of_decode {contentType : Option String} {body : String} {v : Json}
    (h : Payload.decode contentType body = .ok (.json v)) : Json.Given 127 v := by
  have hjson : Payload.isJsonContent contentType = true := by
    by_contra htext
    rw [Payload.decode, if_neg htext] at h
    exact absurd h (by simp)
  exact Json.Spells.given ((decode_eq_json_iff hjson).mp h)

theorem Payload.read_list_eq_ok_iff {α : Type} {c : Codec α} {p : Payload} {xs : List α} :
    p.read (.list c) = .ok xs ↔
      ∃ vs, p = .json (.array vs) ∧ List.Forall₂ (fun v x => c.decode v = .ok x) vs xs := by
  rw [read, Codec.list_decode_eq_ok_iff]
  cases p with
  | text s => simp [value]
  | json v => simp [value]

section Decoded

variable {contentType : Option String} {body : String} {p : Payload}
  (h : Payload.decode contentType body = .ok p)
include h

theorem given_of_mem_decoded {vs : List Json} (hvs : p = .json (.array vs)) :
    ∀ v ∈ vs, Json.Given 126 v := by
  rw [hvs] at h
  cases given_of_decode h with
  | array hitems => exact hitems

theorem read_records_eq_ok_iff {ts : List Traffic} :
    p.read (.list Traffic.codec) = .ok ts ↔ ∃ vs, p = .json (.array vs) ∧
      List.Forall₂ (fun v t => ∃ upload, Traffic.Tells v t.user upload ∧
        upload.val = t.upload.val) vs ts := by
  rw [Payload.read_list_eq_ok_iff]
  refine exists_congr fun vs => and_congr_right fun hvs => forall₂_congr_of_mem fun v hv t => ?_
  exact Traffic.decode_eq_ok_iff (given_of_mem_decoded h hvs v hv)

theorem exists_read_records_iff :
    (∃ ts, p.read (.list Traffic.codec) = .ok ts) ↔
      ∃ vs, p = .json (.array vs) ∧ ∀ v ∈ vs, Traffic.IsRecord v := by
  simp only [Payload.read_list_eq_ok_iff]
  constructor
  · rintro ⟨ts, vs, hvs, hts⟩
    have hall : List.Forall₂ (fun v _ => ∃ t, Traffic.codec.decode v = .ok t) vs ts :=
      hts.imp fun v t ht => ⟨t, ht⟩
    refine ⟨vs, hvs, fun v hv => ?_⟩
    exact (Traffic.exists_decode_iff (given_of_mem_decoded h hvs v hv)).mp
      (forall_left_of_forall₂ hall v hv)
  · rintro ⟨vs, hvs, hrecords⟩
    obtain ⟨ts, hts⟩ := exists_right_of_forall_mem fun v hv =>
      (Traffic.exists_decode_iff (given_of_mem_decoded h hvs v hv)).mpr (hrecords v hv)
    exact ⟨ts, vs, hvs, hts⟩

/-- The first item that is no record tells the error of the list. -/
theorem read_records_of_first_bad {before after : List Json} {bad : Json}
    (hp : p = .json (.array (before ++ bad :: after)))
    (hbefore : ∀ v ∈ before, Traffic.IsRecord v) (hbad : ¬ Traffic.IsRecord bad) :
    ∃ e, Traffic.codec.decode bad = .error e ∧ p.read (.list Traffic.codec) = .error e := by
  have hdecode : ∀ v ∈ before ++ bad :: after,
      (∃ t, Traffic.codec.decode v = .ok t) ↔ Traffic.IsRecord v :=
    fun v hv => Traffic.exists_decode_iff (given_of_mem_decoded h hp v hv)
  have hread : ∀ v ∈ before, ∃ t, Traffic.codec.decode v = .ok t := fun v hv =>
    (hdecode v (List.mem_append_left _ hv)).mpr (hbefore v hv)
  cases he : Traffic.codec.decode bad with
  | ok t => exact absurd ((hdecode bad (by simp)).mp ⟨t, he⟩) hbad
  | error e =>
      refine ⟨e, rfl, ?_⟩
      rw [hp]
      exact mapM_of_error hread he after

end Decoded

/-- **A decoded payload is read as a list of records exactly if it is a list of values that each
tell a user and an upload in range, and then it is read as those users and uploads, in order.
Anything else is an error: that of the first item that is no record, if it is a list.** -/
theorem read_traffics_iff {contentType : Option String} {body : String} {p : Payload}
    (h : Payload.decode contentType body = .ok p) :
    (∀ ts, p.read (.list Traffic.codec) = .ok ts ↔ ∃ vs, p = .json (.array vs) ∧
      List.Forall₂ (fun v t => ∃ upload, Traffic.Tells v t.user upload ∧
        upload.val = t.upload.val) vs ts) ∧
    ((∃ ts, p.read (.list Traffic.codec) = .ok ts) ↔
      ∃ vs, p = .json (.array vs) ∧ ∀ v ∈ vs, Traffic.IsRecord v) ∧
    ((¬ ∃ vs, p = .json (.array vs) ∧ ∀ v ∈ vs, Traffic.IsRecord v) →
      ∃ e, p.read (.list Traffic.codec) = .error e) ∧
    ∀ before bad after, p = .json (.array (before ++ bad :: after)) →
      (∀ v ∈ before, Traffic.IsRecord v) → ¬ Traffic.IsRecord bad →
        ∃ e, Traffic.codec.decode bad = .error e ∧ p.read (.list Traffic.codec) = .error e := by
  refine ⟨fun ts => read_records_eq_ok_iff h, exists_read_records_iff h, ?_,
    fun before bad after => read_records_of_first_bad h⟩
  intro hnone
  cases hp : p.read (.list Traffic.codec) with
  | error e => exact ⟨e, rfl⟩
  | ok ts => exact absurd ((exists_read_records_iff h).mp ⟨ts, hp⟩) hnone

/-- A record as an object with another member, and one as a list. -/
def mixedRecords : List Json :=
  [.object [("upload", .number (.integer ⟨18446744073709551615, by decide, by decide⟩)),
      ("user", .text "a"), ("x", .array [.null])],
    .array [.text "b", .number (.integer ⟨0, by decide, by decide⟩)]]

/-- A list that tells a user and an upload, which is negative. -/
def negativeUpload : Json := .array [.text "c", .number (.integer ⟨-1, by decide, by decide⟩)]

theorem not_isRecord_negativeUpload : ¬ Traffic.IsRecord negativeUpload := by
  rintro ⟨user, upload, htells, hlow, -⟩
  cases htells
  exact absurd hlow (by decide)

/-- Records in both forms are read in order, and with a negative upload after them none is. -/
theorem read_traffics_mixed :
    Payload.decode (some "application/json")
        "[\x7b\"upload\":18446744073709551615,\"x\":[null],\"user\":\"a\"\x7d,[\"b\",0]]" =
      .ok (.json (.array mixedRecords)) ∧
    (Payload.json (.array mixedRecords)).read (.list Traffic.codec) =
      .ok [⟨"a", 18446744073709551615, by decide⟩, ⟨"b", 0, by decide⟩] ∧
    Payload.decode (some "application/json")
        "[\x7b\"upload\":18446744073709551615,\"x\":[null],\"user\":\"a\"\x7d,[\"b\",0],[\"c\",-1]]" =
      .ok (.json (.array (mixedRecords ++ [negativeUpload]))) ∧
    ∃ e, (Payload.json (.array (mixedRecords ++ [negativeUpload]))).read (.list Traffic.codec) =
      .error e := by
  have hrecords : Payload.decode (some "application/json")
        "[\x7b\"upload\":18446744073709551615,\"x\":[null],\"user\":\"a\"\x7d,[\"b\",0]]" =
      .ok (.json (.array mixedRecords)) := by with_unfolding_all rfl
  have hnegative : Payload.decode (some "application/json")
        "[\x7b\"upload\":18446744073709551615,\"x\":[null],\"user\":\"a\"\x7d,[\"b\",0],[\"c\",-1]]" =
      .ok (.json (.array (mixedRecords ++ [negativeUpload]))) := by with_unfolding_all rfl
  refine ⟨hrecords, ((read_traffics_iff hrecords).1 _).mpr ⟨_, rfl, ?_⟩, hnegative,
    (read_traffics_iff hnegative).2.2.1 ?_⟩
  · refine .cons ⟨⟨18446744073709551615, by decide, by decide⟩, .members ?_ ?_, rfl⟩
      (.cons ⟨_, .fields _ _, rfl⟩ .nil)
    · simp
    · simp
  · rintro ⟨vs, hvs, hrecords⟩
    cases hvs
    exact not_isRecord_negativeUpload (hrecords negativeUpload (by simp))

end HttpGet
