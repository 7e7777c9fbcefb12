/-
Texts and their spellings.

A body can bring a text in two ways: as it is, if nothing announces JSON, or as a JSON string in
any of its spellings.  The two do not go the same way.  The one is taken as the payload without a
look at its characters; the other is read, and what is taken then is what its characters mean.
They meet in the value that a reader of types gets, so a caller cannot tell them apart, neither
by a value nor by an error.

Bodies that are no spelling of the text can be told apart from it, already by asking for any
JSON value.
-/
import HttpGet.Proofs.Decoding

namespace HttpGet

/-- A body is a string literal that stands for a text, with blanks around it. -/
def Json.SpellsText (body s : String) : Prop :=
  ∃ q : Padded (List Piece), body.toList = q.chars literal ∧ unescaped q.core = s

/-- A text is spelled by the literals that stand for it, and by nothing else. -/
theorem Json.spells_text_iff {body s : String} : Spells body (.text s) ↔ SpellsText body s := by
  constructor
  · rintro ⟨d, hchars, -, hdenotes⟩
    obtain ⟨before, core, after⟩ := d
    cases hdenotes with
    | text ps =>
        refine ⟨⟨before, ps, after⟩, ?_, rfl⟩
        rw [hchars, Padded.chars, Padded.chars, Derivation.chars]
  · rintro ⟨⟨before, ps, after⟩, hchars, rfl⟩
    refine ⟨⟨before, .text ps, after⟩, ?_, ?_, .text ps⟩
    · rw [hchars, Padded.chars, Padded.chars, Derivation.chars]
    · show (Derivation.text ps).depth ≤ 127
      rw [Derivation.depth]
      exact Nat.zero_le 127

namespace Target

/-- What a target wants instead of a text. -/
def wanted : Target → String
  | unsigned64 => "u64"
  | signed8 => "i8"
  | real => "f64"
  | flag => "a boolean"
  | unit => "unit"
  | signed64List => "a sequence"
  | pair => "a tuple of size 2"
  | unsigned64Map => "a map"
  | traffic => "struct Traffic"
  | traffics => "a sequence"
  | text | optionalText | any => "a string"

/-- What a text is as a value of a target: itself, or not what is wanted. -/
def ofText : (t : Target) → String → Except Mismatch t.Carrier
  | text, s => .ok s
  | optionalText, s => .ok (some s)
  | any, s => .ok (.text s)
  | t, s => .error (.kind (.text s) t.wanted)

theorem decode_text (t : Target) (s : String) : t.codec.decode (.text s) = t.ofText s := by
  cases t <;> rfl

end Target

/-- What is read from a payload as any JSON value is the value of the payload. -/
theorem read_any (p : Payload) : p.read Target.any.codec = .ok p.value := rfl

/-- **A text and its spellings as a JSON string are read alike.**  A body that is not announced
as JSON and one that is are read alike as values of all targets, with the same values and the
same errors, exactly if the second is a string literal that stands for the first.  As a value
of a target a text is itself, or an error that tells the text and what was wanted. -/
theorem read_alike_iff {contentType : Option String}
    (h : Payload.isJsonContent contentType = false) (left right s body : String) :
    ((∃ p q, Payload.decode contentType s = .ok p ∧
        Payload.decode (Payload.announcing left right) body = .ok q ∧
        ∀ t : Target, p.read t.codec = q.read t.codec) ↔ Json.SpellsText body s) ∧
      ∀ t : Target, ∃ p, Payload.decode contentType s = .ok p ∧ p.read t.codec = t.ofText s := by
  have htext : Payload.decode contentType s = .ok (.text s) := by
    rw [Payload.decode, h]
    rfl
  have hjson := isJsonContent_append left right
  refine ⟨⟨?_, ?_⟩, ?_⟩
  · rintro ⟨p, q, hp, hq, halike⟩
    obtain rfl := Except.ok.inj (htext.symm.trans hp)
    have hvalue : q.value = .text s := by
      have hany := halike .any
      rw [read_any, read_any, Except.ok.injEq] at hany
      exact hany.symm
    cases q with
    | json v =>
        obtain rfl : v = .text s := hvalue
        exact Json.spells_text_iff.mp ((decode_eq_json_iff hjson).mp hq)
    | text s' => exact absurd hq ((decode_announced left right body).2.2 s')
  · intro hspells
    refine ⟨.text s, .json (.text s), htext, ?_, fun t => rfl⟩
    exact (decode_eq_json_iff hjson).mpr (Json.spells_text_iff.mpr hspells)
  · intro t
    exact ⟨.text s, htext, t.decode_text s⟩

/-- A line break and a character beyond the basic plane, written by their codes and between
blanks, and what is said when an integer was wanted. -/
theorem read_alike_escaped :
    Payload.isJsonContent none = false ∧
      Json.SpellsText " \"\\u0061\\n\\ud83d\\ude00\"\t" "a\n😀" ∧
      (∃ p q, Payload.decode none "a\n😀" = .ok p ∧
        Payload.decode (Payload.announcing "" "; charset=utf-8")
            " \"\\u0061\\n\\ud83d\\ude00\"\t" = .ok q ∧
        ∀ t : Target, p.read t.codec = q.read t.codec) ∧
      ∃ p, Payload.decode none "a\n😀" = .ok p ∧
        p.read Target.signed8.codec = .error (.kind (.text "a\n😀") "i8") ∧
        (Mismatch.kind (.text "a\n😀") "i8").message =
          "invalid type: string \"a\\n😀\", expected i8" := by
  have hspells : Json.SpellsText " \"\\u0061\\n\\ud83d\\ude00\"\t" "a\n😀" := by
    refine Json.spells_text_iff.mp (Json.parse_eq_ok_iff.mp ?_)
    with_unfolding_all rfl
  have hplain : Payload.isJsonContent none = false := rfl
  have halike := read_alike_iff hplain "" "; charset=utf-8" "a\n😀"
    " \"\\u0061\\n\\ud83d\\ude00\"\t"
  obtain ⟨p, hp, hread⟩ := halike.2 .signed8
  exact ⟨rfl, hspells, halike.1.mpr hspells, p, hp, hread, by decide +kernel⟩

end HttpGet
