/-
Bodies that are cut short.

What is left of an accepted body is accepted, or it is refused for ending where it ends.  Such a
failure has no text left unread, so the place that it reports is the end of the text: the line that
the line feeds count and the column that the bytes behind the last of them count.
-/
import Mathlib.Data.List.Induction
import HttpGet.Proofs.Decoding
import HttpGet.Proofs.Json.ShortenedValues
import HttpGet.Proofs.Url.Cutting

namespace HttpGet

/-! ### The end of a text -/

namespace Position

theorem ofText_append_singleton (text : List Char) (c : Char) :
    ofText (text ++ [c]) = (ofText text).after c := by
  rw [ofText, ofText, List.foldl_append]
  rfl

/-- A text ends on the line that its line feeds count, after the bytes behind the last of them. -/
theorem ofText_eq (text : List Char) :
    ofText text = ⟨text.count '\n' + 1, bytes (cutAtLast (· = '\n') text).2⟩ := by
  induction text using List.reverseRecOn with
  | nil => rfl
  | append_singleton text c ih =>
      rw [ofText_append_singleton, ih, after, List.count_append]
      by_cases hc : c = '\n'
      · rw [if_pos hc, hc, cutAtLast_append_singleton_of_pos (by simp)]
        rfl
      · rw [if_neg hc, cutAtLast_append_singleton_of_neg (by simp [hc]), bytes_append]
        simp [hc]

/-- All the bytes of a text lead to its end. -/
theorem atOffset_bytes (text : List Char) : atOffset text (bytes text) = ofText text := by
  have h := atOffset_append text []
  rwa [List.append_nil] at h

end Position

namespace Json

/-! ### Texts -/

theorem Shortened.of_ok {α : Type} {R : α → α → Prop} {t rest : List Char} {v : α} {part : Scan α}
    (h : Shortened R t (.ok (v, rest)) part) :
    (∃ r, rest = r ++ t ∧ part = .ok (v, r)) ∨ (∃ v', part = .ok (v', [])) ∨
      ∃ cause : Cause, cause.ofTruncation = true ∧ part = .error (.here cause []) := by
  cases h with
  | same v r => exact Or.inl ⟨r, rfl, rfl⟩
  | less rest h => exact Or.inr (Or.inl ⟨_, rfl⟩)
  | out whole h => exact Or.inr (Or.inr ⟨_, h, rfl⟩)

theorem readEnd_of_append {r t : List Char} (h : readEnd (r ++ t) = .ok ()) : readEnd r = .ok () := by
  obtain ⟨gap, hgap⟩ := readEnd_eq_ok_iff.mp h
  refine readEnd_eq_ok_iff.mpr ⟨⟨r, fun c hc => gap.blank c ?_⟩, rfl⟩
  exact hgap ▸ List.mem_append_left t hc

/-- The first part of an accepted text is accepted, or it is refused at its end for ending there. -/
theorem parse_of_append {s t : List Char} {v : Json} (h : parse (String.ofList (s ++ t)) = .ok v) :
    (∃ v', parse (String.ofList s) = .ok v') ∨ ∃ cause : Cause, cause.ofTruncation = true ∧
      parse (String.ofList s) = .error ⟨cause, Position.ofText s⟩ := by
  rw [parse, readText, String.toList_ofList] at h
  rw [parse, readText, String.toList_ofList]
  split at h
  · simp at h
  · rename_i v' rest hread
    split at h
    · simp at h
    · rename_i hend
      have hshort := readValue_shortens depthLimit s t
      rw [hread] at hshort
      rcases hshort.of_ok with ⟨r, rfl, hs⟩ | ⟨w, hs⟩ | ⟨cause, hcause, hs⟩
      · refine Or.inl ⟨v', ?_⟩
        simp only [hs, readEnd_of_append hend]
      · exact Or.inl ⟨w, by simp only [hs]; rfl⟩
      · refine Or.inr ⟨cause, hcause, ?_⟩
        simp only [hs, Failure.report, Failure.position, Failure.here, Position.bytes_nil,
          Nat.sub_zero, Nat.add_zero, Position.atOffset_bytes]

/-- Where a text ends too early the message says so, or that a number is out of range. -/
theorem Cause.message_of_truncation {cause : Cause} (h : cause.ofTruncation = true) :
    "EOF while parsing".toList <+: cause.message.toList ∨ cause.message = "number out of range" := by
  cases cause with
  | endInValue => exact Or.inl (by decide)
  | endInList => exact Or.inl (by decide)
  | endInObject => exact Or.inl (by decide)
  | endInString => exact Or.inl (by decide)
  | numberOutOfRange => exact Or.inr rfl
  | _ => simp [ofTruncation] at h

end Json

/-! ### Decoding -/

/-- A body is refused for ending too early, and the message points to its end: to the line that its
line feeds count, and to the column that the bytes behind the last of them count. -/
structure RefusedAtEnd (contentType : Option String) (body : String) (e : Json.Error) : Prop where
  decode : Payload.decode contentType body = .error e
  settle : ∀ status, Response.settle ⟨status, contentType, body⟩ = .error (.undecodable e)
  message : ∃ reason : String,
    ("EOF while parsing".toList <+: reason.toList ∨ reason = "number out of range") ∧
      e.message = reason ++ " at line " ++ toString (body.toList.count '\n' + 1) ++
        " column " ++ toString (Position.bytes (cutAtLast (· = '\n') body.toList).2)

/-- **What is left of a decoded body when its end is cut off is decoded too, or it is refused at
its end, for ending there.** -/
theorem decode_truncated {left right body part : String} {v : Json}
    (h : Payload.decode (Payload.announcing left right) body = .ok (.json v))
    (hpart : part.toList <+: body.toList) :
    (∃ v', Payload.decode (Payload.announcing left right) part = .ok (.json v')) ∨
      ∃ e, RefusedAtEnd (Payload.announcing left right) part e := by
  have hjson := isJsonContent_append left right
  obtain ⟨t, ht⟩ := hpart
  have hbody : Json.parse (String.ofList (part.toList ++ t)) = .ok v := by
    rw [ht, String.ofList_toList]
    exact Json.parse_eq_ok_iff.mpr ((decode_eq_json_iff hjson).mp h)
  rcases Json.parse_of_append hbody with ⟨v', hpart⟩ | ⟨cause, hcause, hpart⟩
  · rw [String.ofList_toList] at hpart
    exact Or.inl ⟨v', (decode_eq_json_iff hjson).mpr (Json.parse_eq_ok_iff.mp hpart)⟩
  · rw [String.ofList_toList] at hpart
    have hdecode : Payload.decode (Payload.announcing left right) part =
        .error ⟨cause, Position.ofText part.toList⟩ :=
      (decode_of_isJsonContent part hjson).trans (by rw [hpart]; rfl)
    refine Or.inr ⟨_, hdecode, fun status => ?_, cause.message,
      Json.Cause.message_of_truncation hcause, ?_⟩
    · simp only [Response.settle, hdecode]
    · rw [Json.Error.message, Position.ofText_eq]

/-- A body that ends between two surrogates, on its second line. -/
theorem decode_truncated_surrogates :
    Payload.decode (Payload.announcing "" "") "[null,\n \"é\\ud83d\\ude00\"]" =
      .ok (.json (.array [.null, .text "é😀"])) ∧
    "[null,\n \"é\\ud83d\\u".toList <+: "[null,\n \"é\\ud83d\\ude00\"]".toList ∧
    ∃ e, RefusedAtEnd (Payload.announcing "" "") "[null,\n \"é\\ud83d\\u" e ∧
      e.message = "EOF while parsing a string at line 2 column 12" := by
  have hdecode : Payload.decode (Payload.announcing "" "") "[null,\n \"é\\ud83d\\ude00\"]" =
      .ok (.json (.array [.null, .text "é😀"])) := by with_unfolding_all rfl
  have hpart : "[null,\n \"é\\ud83d\\u".toList <+: "[null,\n \"é\\ud83d\\ude00\"]".toList := by
    decide
  have hrefused : Payload.decode (Payload.announcing "" "") "[null,\n \"é\\ud83d\\u" =
      .error ⟨.endInString, ⟨2, 12⟩⟩ := by with_unfolding_all rfl
  refine ⟨hdecode, hpart, ?_⟩
  rcases decode_truncated hdecode hpart with ⟨v', hv'⟩ | ⟨e, he⟩
  · rw [hrefused] at hv'
    exact absurd hv' (by simp)
  · have hreport := he.decode
    rw [hrefused, Except.error.injEq] at hreport
    exact ⟨e, he, by rw [← hreport]; rfl⟩

end HttpGet
