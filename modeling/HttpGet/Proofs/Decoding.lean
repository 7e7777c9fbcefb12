/-
Decoding a body.

A content type that contains the media type anywhere announces JSON, and then the body is a
value or an error, but never a text.  Which bodies are values the grammar says alone.  So a
payload that is written, in either form, is decoded to what it was: the text of a value
spells it.
-/
import HttpGet.GetError
import HttpGet.Proofs.Json.Printing

namespace HttpGet

/-- A content type that contains the media type of JSON between two texts. -/
def Payload.announcing (left right : String) : Option String :=
  some (left ++ jsonMediaType ++ right)

/-- A content type that contains the media type announces JSON. -/
theorem isJsonContent_append (left right : String) :
    Payload.isJsonContent (some (left ++ Payload.jsonMediaType ++ right)) = true := by
  rw [Payload.isJsonContent, occursIn_iff]
  exact ⟨left.toList, right.toList, by rw [String.toList_append, String.toList_append]⟩

theorem isJsonContent_iff {contentType : Option String} :
    Payload.isJsonContent contentType = true ↔
      ∃ left right, contentType = some (left ++ Payload.jsonMediaType ++ right) := by
  constructor
  · intro h
    cases contentType with
    | none => exact absurd h Bool.false_ne_true
    | some text =>
        obtain ⟨a, b, hab⟩ := occursIn_iff.mp h
        refine ⟨String.ofList a, String.ofList b, congrArg some (String.toList_inj.mp ?_)⟩
        rw [String.toList_append, String.toList_append, String.toList_ofList, String.toList_ofList,
          hab]
  · rintro ⟨left, right, rfl⟩
    exact isJsonContent_append left right

/-- A body that is announced as JSON is what the parser makes of it. -/
theorem decode_of_isJsonContent {contentType : Option String} (body : String)
    (h : Payload.isJsonContent contentType = true) :
    Payload.decode contentType body = (Json.parse body).map .json := by
  rw [Payload.decode, if_pos h]

theorem decode_eq_json_iff {contentType : Option String} {body : String} {v : Json}
    (h : Payload.isJsonContent contentType = true) :
    Payload.decode contentType body = .ok (.json v) ↔ Json.Spells body v := by
  rw [decode_of_isJsonContent body h, ← Json.parse_eq_ok_iff]
  cases hparse : Json.parse body with
  | error e => simp [Except.map]
  | ok v' => simp [Except.map]

/-- Whether a body, decoded and read as a value of a type, gives this one. -/
def Payload.Yields {α : Type} (contentType : Option String) (body : String) (c : Codec α) (x : α) :
    Prop :=
  ∃ p, decode contentType body = .ok p ∧ p.read c = .ok x

theorem yields_iff {α : Type} {contentType : Option String} {body : String} {c : Codec α} {x : α}
    (h : Payload.isJsonContent contentType = true) :
    Payload.Yields contentType body c x ↔ ∃ v, Json.parse body = .ok v ∧ c.decode v = .ok x := by
  rw [Payload.Yields, decode_of_isJsonContent body h]
  constructor
  · rintro ⟨p, hp, hx⟩
    cases hparse : Json.parse body with
    | error e => simp [hparse, Except.map] at hp
    | ok v =>
        simp only [hparse, Except.map, Except.ok.injEq] at hp
        subst hp
        exact ⟨v, rfl, hx⟩
  · rintro ⟨v, hv, hx⟩
    exact ⟨.json v, by rw [hv]; rfl, hx⟩

/-- **A body that is announced as JSON is decoded to the value that it spells, and is an
error if it spells none.** -/
theorem decode_announced (left right body : String) :
    (∀ v, Payload.decode (some (left ++ Payload.jsonMediaType ++ right)) body = .ok (.json v) ↔
      Json.Spells body v) ∧
    ((¬ ∃ v, Json.Spells body v) ↔
      ∃ e, Payload.decode (some (left ++ Payload.jsonMediaType ++ right)) body = .error e ∧
        ∀ status, Response.settle ⟨status, some (left ++ Payload.jsonMediaType ++ right), body⟩ =
          .error (.undecodable e)) ∧
    ∀ s, Payload.decode (some (left ++ Payload.jsonMediaType ++ right)) body ≠ .ok (.text s) := by
  have hjson := isJsonContent_append left right
  have hdecode := decode_of_isJsonContent body hjson
  refine ⟨fun v => decode_eq_json_iff hjson, ?_, ?_⟩
  · constructor
    · intro h
      cases hparse : Json.parse body with
      | error e =>
          have herror : Payload.decode (some (left ++ Payload.jsonMediaType ++ right)) body =
              .error e := by rw [hdecode, hparse]; rfl
          exact ⟨e, herror, fun status => by simp only [Response.settle, herror]⟩
      | ok v => exact absurd ⟨v, Json.parse_eq_ok_iff.mp hparse⟩ h
    · rintro ⟨e, herror, -⟩ ⟨v, hv⟩
      rw [(decode_eq_json_iff hjson).mpr hv] at herror
      exact absurd herror (by simp)
  · intro s h
    rw [hdecode] at h
    cases hparse : Json.parse body with
    | error e => simp [hparse, Except.map] at h
    | ok v => simp [hparse, Except.map] at h

/-- **A decoded value without floating point numbers is decoded to itself when it is written,
in either form.** -/
theorem decode_written {left right body : String} {v : Json}
    (h : Payload.decode (some (left ++ Payload.jsonMediaType ++ right)) body = .ok (.json v))
    (hv : Json.RealFree v) (left' right' : String) :
    Payload.decode (some (left' ++ Payload.jsonMediaType ++ right')) (Payload.json v).compact =
        .ok (.json v) ∧
      Payload.decode (some (left' ++ Payload.jsonMediaType ++ right')) (Payload.json v).pretty =
        .ok (.json v) := by
  have hspells := (decode_eq_json_iff (isJsonContent_append left right)).mp h
  have hfits := hspells.fits hv
  have hjson := isJsonContent_append left' right'
  constructor
  · exact (decode_eq_json_iff hjson).mpr (Json.written_compact hfits).spells
  · exact (decode_eq_json_iff hjson).mpr (Json.written_pretty hfits 0).spells

/-- A body with an escaped key, an escaped line break and a character beyond the basic
plane. -/
theorem decode_written_escapes :
    Payload.decode (some ("" ++ Payload.jsonMediaType ++ "; charset=utf-8"))
        " [-7, \x7b\"k\\u00e9\" : \"\\n\\ud83d\\ude00\"\x7d]" =
      .ok (.json (.array [.number (.integer ⟨-7, by decide, by decide⟩),
        .object [("ké", .text "\n😀")]])) ∧
    Payload.decode (some ("" ++ Payload.jsonMediaType ++ ""))
        (Payload.json (.array [.number (.integer ⟨-7, by decide, by decide⟩),
          .object [("ké", .text "\n😀")]])).pretty =
      .ok (.json (.array [.number (.integer ⟨-7, by decide, by decide⟩),
        .object [("ké", .text "\n😀")]])) := by
  have hdecode : Payload.decode (some ("" ++ Payload.jsonMediaType ++ "; charset=utf-8"))
      " [-7, \x7b\"k\\u00e9\" : \"\\n\\ud83d\\ude00\"\x7d]" =
        .ok (.json (.array [.number (.integer ⟨-7, by decide, by decide⟩),
          .object [("ké", .text "\n😀")]])) := by with_unfolding_all rfl
  refine ⟨hdecode, (decode_written hdecode ?_ "" "").2⟩
  refine .array fun v hv => ?_
  rcases List.mem_cons.mp hv with rfl | hv
  · exact .integer _
  · obtain rfl := List.mem_singleton.mp hv
    refine .object fun m hm => ?_
    obtain rfl := List.mem_singleton.mp hm
    exact .text _

end HttpGet
