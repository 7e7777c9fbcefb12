/-
The JSON forms of configurations are lossless.

A configuration that is written as JSON is read back as it was: which sections there are, which
of them say something, and every text.  A section may be written as the object of its settings
or as their list, each section in its own way.  What is absent is written as null, and that is
not the same as a section without its flag.
-/
import HttpGet.Config.Form
import HttpGet.Proofs.Json.Records

namespace HttpGet

namespace Json

/-- A field is read back into the draft. -/
theorem ReadsBack.field {σ β : Type} {value : Reader β} {v : Json} {x : β}
    (h : ReadsBack value v x) (name : String) (get : σ → Option β) (set : σ → β → σ)
    (default? : Option β) (draft : σ) :
    ReadsBack ((Field.ofReader name value get set default?).read draft) v (set draft x) := by
  refine ⟨h.begins, fun rest hrest => ?_⟩
  show (value (compact v ++ rest)).map _ = _
  rw [h.reads rest hrest]
  rfl

/-- A value that may be absent is null or the value. -/
theorem ReadsBack.ofOption {α : Type} {value : Reader α} {write : α → Json}
    (h : ∀ x, ReadsBack value (write x) x) (hnull : ∀ x, write x ≠ .null) (x : Option α) :
    ReadsBack (readOptional value) (Json.ofOption write x) x := by
  cases x with
  | none => exact null value
  | some x => exact (h x).present (hnull x)

theorem ReadsBack.ofTexts (texts : List String) :
    ReadsBack (readList readTextValue) (Json.ofTexts texts) texts := by
  refine ReadsBack.list ?_
  rw [List.forall₂_map_left_iff]
  exact List.forall₂_same.mpr fun s _ => .text s

theorem Form.write_ne_null (form : Form) (members : List (String × Json)) :
    form.write members ≠ .null := by
  cases form with
  | object => exact fun h => by cases h
  | list => exact fun h => by cases h

end Json

open Json (Form ReadsBack Fills)

/-! ### Sections -/

theorem FetchSection.readsBack (s : FetchSection) (form : Form) :
    ReadsBack record.read (form.write [("uris", .ofTexts s.uris)]) s :=
  record.readsBack [.ofTexts s.uris] rfl (by decide)
    (.cons rfl ((ReadsBack.ofTexts s.uris).field ..) (.nil _)) rfl form

/-- A section whose only setting is a flag is read back. -/
theorem flagRecord_readsBack {α : Type} (name key : String) (make : Option Bool → α)
    (flag : Option Bool) (form : Form) :
    ReadsBack (flagRecord name key make).read (form.write [(key, .ofOption .flag flag)])
      (make flag) :=
  (flagRecord name key make).readsBack [.ofOption .flag flag] rfl (by simp [flagRecord])
    (.cons rfl ((ReadsBack.ofOption ReadsBack.flag (fun b h => by cases h) flag).field ..) (.nil _))
    rfl form

/-! ### Configuration files -/

namespace FileConfig

/-- The forms in which a configuration file and its sections are written. -/
structure Forms where
  file : Form
  fetch : Form
  output : Form
  logging : Form

/-- The JSON value of a configuration file in these forms. -/
def toJsonIn (forms : Forms) (c : FileConfig) : Json :=
  forms.file.write [
    ("fetch", forms.fetch.write [("uris", .ofTexts c.fetch.uris)]),
    ("output", .ofOption (fun s => forms.output.write [("pretty", .ofOption .flag s.pretty)])
      c.output),
    ("logging", .ofOption (fun s => forms.logging.write [("json", .ofOption .flag s.json)])
      c.logging)]

theorem readsBack (forms : Forms) (c : FileConfig) :
    ReadsBack record.read (c.toJsonIn forms) c := by
  have hfetch := c.fetch.readsBack forms.fetch
  have houtput : ReadsBack (Json.readOptional OutputSection.record.read) _ c.output :=
    ReadsBack.ofOption
      (fun s => flagRecord_readsBack "OutputConfig" "pretty" OutputSection.mk s.pretty forms.output)
      (fun s => forms.output.write_ne_null _) c.output
  have hlogging : ReadsBack (Json.readOptional LoggingSection.record.read) _ c.logging :=
    ReadsBack.ofOption
      (fun s => flagRecord_readsBack "LoggingConfig" "json" LoggingSection.mk s.json forms.logging)
      (fun s => forms.logging.write_ne_null _) c.logging
  exact record.readsBack [_, _, _] rfl (by decide)
    (.cons rfl (hfetch.field ..) (.cons rfl (houtput.field ..) (.cons rfl (hlogging.field ..)
      (.nil _)))) rfl forms.file

/-- The positional form of a configuration file: it and its sections are lists of their fields,
in order. -/
def toPositional (c : FileConfig) : Json :=
  .array [.array [.ofTexts c.fetch.uris],
    .ofOption (fun s => .array [.ofOption .flag s.pretty]) c.output,
    .ofOption (fun s => .array [.ofOption .flag s.json]) c.logging]

end FileConfig

/-! ### Settings -/

theorem Settings.readsBack (s : Settings) : ReadsBack record.read s.toJson s := by
  have hconfig := ReadsBack.ofOption ReadsBack.text (fun t h => by cases h) s.config
  exact record.readsBack [_, _, _, _, _] rfl (by decide)
    (.cons rfl ((ReadsBack.ofTexts s.uris).field ..) (.cons rfl (hconfig.field ..)
      (.cons rfl ((ReadsBack.flag s.pretty).field ..) (.cons rfl ((ReadsBack.flag s.logJson).field ..)
        (.cons rfl ((ReadsBack.flag s.verbose).field ..) (.nil _)))))) rfl .object

/-- **A configuration that is written as JSON is read back as it was: a file as objects, as
lists, or as any mixture of the two, and settings as an object.** -/
theorem ofJsonText_toJson (c : FileConfig) (s : Settings) :
    FileConfig.ofJsonText c.toJson.toCompactString = .ok c ∧
      FileConfig.ofJsonText c.toPositional.toCompactString = .ok c ∧
      (∀ forms, FileConfig.ofJsonText (c.toJsonIn forms).toCompactString = .ok c) ∧
      Settings.ofJsonText s.toJson.toCompactString = .ok s :=
  ⟨(c.readsBack ⟨.object, .object, .object, .object⟩).readText,
    (c.readsBack ⟨.list, .list, .list, .list⟩).readText,
    fun forms => (c.readsBack forms).readText, s.readsBack.readText⟩

end HttpGet
