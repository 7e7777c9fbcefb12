/-
Bodies that differ in layout and in the order of members.

A text can be changed in three ways without a change of what is decoded: blanks between its
tokens may come and go, the members of an object may change places if no two of them have the
same key, and a member may go if another with its key comes later.  `Rearranges` has a case for
each of them, at any depth, and the invariant of a change is what a derivation denotes within a
depth.  Of an object only `ObjectOf` counts, in which there is no order of members.
-/
import Mathlib.Data.List.Perm.Basic
import HttpGet.Proofs.Decoding
import HttpGet.Proofs.Json.Unambiguity

namespace HttpGet.Json

/-! ### Changes of a text -/

/-- One derivation becomes another by a change of blanks, by a change of places of members whose
keys are distinct, or by the loss of a member whose key comes again.  Keys are compared as they
are meant, not as they are written. -/
inductive Rearranges : Derivation → Derivation → Prop
  | refl (d : Derivation) : Rearranges d d
  | trans {d d' d'' : Derivation} (h : Rearranges d d') (h' : Rearranges d' d'') :
      Rearranges d d''
  | arrayGap (gap gap' : Gap) (items : List (Padded Derivation)) :
      Rearranges (.array gap items) (.array gap' items)
  | objectGap (gap gap' : Gap) (members : List (Padded (List Piece) × Padded Derivation)) :
      Rearranges (.object gap members) (.object gap' members)
  | item {gap : Gap} {before after : List (Padded Derivation)} {i i' : Padded Derivation}
      (h : Rearranges i.core i'.core) :
      Rearranges (.array gap (before ++ i :: after)) (.array gap (before ++ i' :: after))
  | member {gap : Gap} {before after : List (Padded (List Piece) × Padded Derivation)}
      {m m' : Padded (List Piece) × Padded Derivation} (key : m.1.core = m'.1.core)
      (h : Rearranges m.2.core m'.2.core) :
      Rearranges (.object gap (before ++ m :: after)) (.object gap (before ++ m' :: after))
  | permute {gap : Gap} {members members' : List (Padded (List Piece) × Padded Derivation)}
      (distinct : (members.map fun m => unescaped m.1.core).Nodup) (h : members.Perm members') :
      Rearranges (.object gap members) (.object gap members')
  | drop {gap : Gap} {before after : List (Padded (List Piece) × Padded Derivation)}
      {m : Padded (List Piece) × Padded Derivation}
      (later : ∃ m' ∈ after, unescaped m'.1.core = unescaped m.1.core) :
      Rearranges (.object gap (before ++ m :: after)) (.object gap (before ++ after))

/-- A text becomes another by changes of what it derives, and of the blanks around it. -/
def Rearranged (text text' : String) : Prop :=
  ∃ d d' : Padded Derivation, text.toList = d.chars Derivation.chars ∧
    text'.toList = d'.chars Derivation.chars ∧ Rearranges d.core d'.core

/-! ### What a change preserves -/

/-- Members that are read have the keys that are written. -/
theorem map_fst_of_forall₂ {α : Type} {P : Derivation → α → Prop}
    {members : List (Padded (List Piece) × Padded Derivation)} {kvs : List (String × α)}
    (h : List.Forall₂ (MemberOf P) members kvs) :
    kvs.map Prod.fst = members.map fun m => unescaped m.1.core :=
  (forall₂_memberOf_iff.mp h).1

/-- A change keeps what is denoted, and the depth within which it is. -/
theorem Rearranges.within {d d' : Derivation} (h : Rearranges d d') :
    ∀ {n : Nat} {v : Json}, Within n d v → Within n d' v := by
  induction h with
  | refl => exact id
  | trans _ _ ih ih' => exact fun hv => ih' (ih hv)
  | arrayGap gap gap' items =>
      intro n v hv
      obtain ⟨m, vs, rfl, rfl, hvs⟩ := hv.of_array
      exact Within.array hvs
  | objectGap gap gap' members =>
      intro n v hv
      obtain ⟨m, kvs, ms, rfl, rfl, last, hkvs⟩ := hv.of_object
      exact Within.object hkvs last
  | item h ih =>
      intro n v hv
      obtain ⟨m, vs, rfl, rfl, hvs⟩ := hv.of_array
      rw [List.map_append, List.map_cons] at hvs
      obtain ⟨us, u, us', rfl, hus, hu, hus'⟩ := exists_of_forall₂_append_cons hvs
      refine Within.array ?_
      rw [List.map_append, List.map_cons]
      exact List.rel_append hus (.cons (ih hu) hus')
  | member key h ih =>
      intro n v hv
      obtain ⟨m, kvs, ms, rfl, rfl, last, hkvs⟩ := hv.of_object
      obtain ⟨us, u, us', rfl, hus, hu, hus'⟩ := exists_of_forall₂_append_cons hkvs
      exact Within.object (List.rel_append hus (.cons ⟨key ▸ hu.key, ih hu.value⟩ hus')) last
  | permute distinct hperm =>
      intro n v hv
      obtain ⟨m, kvs, ms, rfl, rfl, last, hkvs⟩ := hv.of_object
      -- The values that are read change places as the members do.
      obtain ⟨kvs', hkvs', hperm'⟩ := List.perm_comp_forall₂ hperm.symm hkvs
      have hnodup : (kvs.map Prod.fst).Nodup := by rwa [map_fst_of_forall₂ hkvs]
      exact Within.object hkvs' (last.perm hnodup hperm'.symm)
  | drop later =>
      intro n v hv
      obtain ⟨m, kvs, ms, rfl, rfl, last, hkvs⟩ := hv.of_object
      obtain ⟨us, u, us', rfl, hus, hu, hus'⟩ := exists_of_forall₂_append_cons hkvs
      obtain ⟨m', hm', hkey⟩ := later
      have hu' : u.1 ∈ us'.map Prod.fst := by
        rw [map_fst_of_forall₂ hus', ← hu.key, ← hkey]
        exact List.mem_map_of_mem hm'
      exact Within.object (List.rel_append hus hus') (last.drop (List.mem_map.mp hu'))

/-- A text that is rearranged is accepted for what it was accepted for. -/
theorem parse_of_rearranged {text text' : String} {v : Json} (h : Rearranged text text')
    (hv : parse text = .ok v) : parse text' = .ok v := by
  obtain ⟨d, d', htext, htext', hd⟩ := h
  rw [← String.ofList_toList (s := text), htext, parse_chars_eq_ok_iff] at hv
  rw [← String.ofList_toList (s := text'), htext', parse_chars_eq_ok_iff]
  exact hd.within hv

end HttpGet.Json

namespace HttpGet

/-! ### Decoding -/

/-- **What is decoded depends neither on the blanks between tokens, nor on the order of members
whose keys are distinct, nor on members whose key comes again.**  So the forms in which a payload
is printed do not depend on them either, and in both of them the keys of every object increase
strictly by code point. -/
theorem decode_rearranged {left right body body' : String} {v : Json}
    (h : Payload.decode (Payload.announcing left right) body = .ok (.json v))
    (hbody : Json.Rearranged body body') (left' right' : String) :
    Payload.decode (Payload.announcing left' right') body' = .ok (.json v) ∧
      Json.KeysIncreaseIn (Payload.json v).compact.toList ∧
      Json.KeysIncreaseIn (Payload.json v).pretty.toList := by
  have hspells := (decode_eq_json_iff (isJsonContent_append left right)).mp h
  have hspells' := Json.parse_eq_ok_iff.mp
    (Json.parse_of_rearranged hbody (Json.parse_eq_ok_iff.mpr hspells))
  refine ⟨(decode_eq_json_iff (isJsonContent_append left' right')).mpr hspells', ?_, ?_⟩
  · rw [Payload.compact, Json.toCompactString, String.toList_ofList]
    exact (Json.legible_compact hspells.given).keysIncreaseIn
  · rw [Payload.pretty, Json.toPrettyString, String.toList_ofList]
    exact (Json.legible_pretty hspells.given 0).keysIncreaseIn

namespace Json

/-- A member with blanks before it and none in it. -/
def memberAfter (before : Gap) (key : List Piece) (d : Derivation) :
    Padded (List Piece) × Padded Derivation :=
  (⟨before, key, .none⟩, ⟨.none, d, .none⟩)

/-- The member `"b":null`. -/
def plainMember : Padded (List Piece) × Padded Derivation :=
  memberAfter .none [.plain 'b' (by decide)] .null

/-- The member `"\u0062":true`, whose key is the same. -/
def escapedMember (before : Gap) : Padded (List Piece) × Padded Derivation :=
  memberAfter before [.unit ⟨['0', '0', '6', '2'], rfl, 0x62, by decide⟩ (by decide)] (.flag true)

/-- The member `"a":[]`, with blanks in its list. -/
def listMember (before inner : Gap) : Padded (List Piece) × Padded Derivation :=
  memberAfter before [.plain 'a' (by decide)] (.array inner [])

/-- An object loses a member whose key comes again in another spelling, and what is left of it
changes places and comes closer together. -/
theorem rearranged_spellings :
    Rearranged "\x7b\"b\":null, \"\\u0062\":true, \"a\":[ ]\x7d"
      "\x7b\"a\":[],\"\\u0062\":true\x7d" := by
  obtain ⟨blank, hblank⟩ : ∃ blank : Gap, blank.chars = [' '] := ⟨⟨[' '], by simp⟩, rfl⟩
  have hdrop : Rearranges
      (.object .none [plainMember, escapedMember blank, listMember blank blank])
      (.object .none [escapedMember blank, listMember blank blank]) :=
    @Rearranges.drop .none [] _ plainMember ⟨escapedMember blank, by simp, by rfl⟩
  have hpermute : Rearranges (.object .none [escapedMember blank, listMember blank blank])
      (.object .none [listMember blank blank, escapedMember blank]) :=
    .permute (show ["b", "a"].Nodup by decide) (.swap _ _ [])
  have hlist : Rearranges (.object .none [listMember blank blank, escapedMember blank])
      (.object .none [listMember .none .none, escapedMember blank]) :=
    @Rearranges.member .none [] [escapedMember blank] _ _ rfl (.arrayGap blank .none [])
  have hescaped : Rearranges (.object .none [listMember .none .none, escapedMember blank])
      (.object .none [listMember .none .none, escapedMember .none]) :=
    @Rearranges.member .none [listMember .none .none] [] _ _ rfl (.refl (.flag true))
  refine ⟨⟨.none, _, .none⟩, ⟨.none, _, .none⟩, ?_, ?_,
    hdrop.trans (hpermute.trans (hlist.trans hescaped))⟩
  · simp [Padded.chars, Derivation.chars, plainMember, escapedMember, listMember, memberAfter,
      joinWith, literal, Piece.chars, hblank]
  · simp [Padded.chars, Derivation.chars, escapedMember, listMember, memberAfter, joinWith,
      literal, Piece.chars]

end Json

theorem decode_rearranged_spellings :
    Payload.decode (Payload.announcing "" "")
      "\x7b\"b\":null, \"\\u0062\":true, \"a\":[ ]\x7d" =
      .ok (.json (.object [("a", .array []), ("b", .flag true)])) ∧
    Json.Rearranged "\x7b\"b\":null, \"\\u0062\":true, \"a\":[ ]\x7d"
      "\x7b\"a\":[],\"\\u0062\":true\x7d" ∧
    Payload.decode (Payload.announcing "" "") "\x7b\"a\":[],\"\\u0062\":true\x7d" =
      .ok (.json (.object [("a", .array []), ("b", .flag true)])) := by
  have hdecode : Payload.decode (Payload.announcing "" "")
      "\x7b\"b\":null, \"\\u0062\":true, \"a\":[ ]\x7d" =
        .ok (.json (.object [("a", .array []), ("b", .flag true)])) := by with_unfolding_all rfl
  have hbody := Json.rearranged_spellings
  exact ⟨hdecode, hbody, (decode_rearranged hdecode hbody "" "").1⟩

end HttpGet
