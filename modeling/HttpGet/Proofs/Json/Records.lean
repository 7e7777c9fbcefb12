/-
Reading back what is written as a record.

A record is written as the object of its fields or as the list of their values, and either is
read into a draft field by field.  `Fills` says that reading the values one after another takes
one draft to another; it is the invariant of both loops, and the two forms of a record differ
only in what stands between the values.

A value is read back up to its last character, whatever follows that does not go on with a
number.  How its text begins matters too, because a reader looks at one character before it
reads an item or a value that may be null.
-/
import HttpGet.Json.Record
import HttpGet.Proofs.Json.Printing

namespace HttpGet.Json

/-- A reader gives `x` where the compact text of a value stands, and leaves what follows. -/
structure ReadsBack {α : Type} (reader : Reader α) (v : Json) (x : α) : Prop where
  begins : ∃ c rest, compact v = c :: rest ∧ isSpace c = false ∧ c ≠ ']' ∧ (c = 'n' → v = .null)
  reads : ∀ rest, Stops rest → reader (compact v ++ rest) = .ok (x, rest)

/-- Parts with the end of the list or the object after them are later parts without blanks. -/
theorem laterParts_eq_listed (close : Char) (parts : List (List Char)) :
    laterParts [] [] close parts = listed false parts ++ [close] := by
  induction parts with
  | nil => rfl
  | cons part parts ih => simp [laterParts, listed, comma, ih]

theorem compact_array (vs : List Json) :
    compact (.array vs) = '[' :: (listed true (vs.map compact) ++ [']']) := by
  cases vs with
  | nil => rfl
  | cons v vs =>
      rw [compact, compactItems_eq, laterParts_eq_listed, List.map_cons, listed, comma]
      simp

theorem compact_object (ms : List (String × Json)) :
    compact (.object ms) = '{' :: (listed true (ms.map compactMember) ++ ['}']) := by
  cases ms with
  | nil => rfl
  | cons m ms =>
      rw [compact, compactMembers_eq, laterParts_eq_listed, List.map_cons, listed, comma]
      simp

/-- The characters of a text are read up to its closing quote. -/
theorem stringBody_quote (s : String) (rest : List Char) :
    ∃ body, quote s = '"' :: body ∧ stringBody (body ++ rest) = .ok (s.toList, rest) := by
  obtain ⟨ps, hps, rfl⟩ := exists_pieces s
  refine ⟨ps.flatMap Piece.chars ++ ['"'], by rw [← hps]; rfl, ?_⟩
  rw [List.append_assoc, List.singleton_append, stringBody_complete, unescaped,
    String.toList_ofList]

/-! ### Values without fields -/

namespace ReadsBack

theorem text (s : String) : ReadsBack readTextValue (.text s) s := by
  obtain ⟨body, hquote, -⟩ := stringBody_quote s []
  refine ⟨⟨'"', body, by rw [compact, hquote], by decide, by decide, by simp⟩, ?_⟩
  intro rest _
  obtain ⟨body, hquote, hbody⟩ := stringBody_quote s rest
  rw [compact, hquote, List.cons_append, readTextValue, skipSpace_cons (by decide)]
  simp only [hbody, String.ofList_toList]

theorem flag (b : Bool) : ReadsBack readFlag (.flag b) b := by
  cases b with
  | true =>
      refine ⟨⟨'t', _, rfl, by decide, by decide, by simp⟩, fun rest _ => ?_⟩
      show readFlag ('t' :: ("rue".toList ++ rest)) = _
      rw [readFlag, skipSpace_cons (by decide)]
      simp only [word_complete, Except.map]
  | false =>
      refine ⟨⟨'f', _, rfl, by decide, by decide, by simp⟩, fun rest _ => ?_⟩
      show readFlag ('f' :: ("alse".toList ++ rest)) = _
      rw [readFlag, skipSpace_cons (by decide)]
      simp only [word_complete, Except.map]

theorem null {α : Type} (value : Reader α) : ReadsBack (readOptional value) .null none := by
  refine ⟨⟨'n', _, rfl, by decide, by decide, fun _ => rfl⟩, fun rest _ => ?_⟩
  show readOptional value ('n' :: ("ull".toList ++ rest)) = _
  rw [readOptional, skipSpace_cons (by decide)]
  simp only [word_complete, Except.map]

/-- What is not null is read by the reader of the value. -/
theorem present {α : Type} {value : Reader α} {v : Json} {x : α} (h : ReadsBack value v x)
    (hv : v ≠ .null) : ReadsBack (readOptional value) v (some x) := by
  refine ⟨h.begins, fun rest hrest => ?_⟩
  obtain ⟨c, s, hc, hspace, -, hnull⟩ := h.begins
  have hread := h.reads rest hrest
  have hn : c ≠ 'n' := fun heq => hv (hnull heq)
  rw [hc, List.cons_append] at hread ⊢
  rw [readOptional, skipSpace_cons hspace]
  split
  · rename_i heq
    exact absurd (List.cons.inj heq).1 hn
  · rw [hread]
    rfl

/-- The items of a list are read back one after another. -/
theorem items {α : Type} {item : Reader α} {vs : List Json} {xs : List α}
    (h : List.Forall₂ (ReadsBack item) vs xs) {fuel : Nat} (hfuel : vs.length < fuel)
    (first : Bool) (rest : List Char) :
    readItems item fuel first (listed first (vs.map compact) ++ ']' :: rest) =
      .ok (xs, ']' :: rest) := by
  induction h generalizing fuel first with
  | nil =>
      obtain ⟨fuel, rfl⟩ := Nat.exists_eq_succ_of_ne_zero (Nat.ne_zero_of_lt hfuel)
      have hend := nextItem_end first .none rest
      simp only [Gap.chars_none, List.nil_append] at hend
      rw [List.map_nil, listed, List.nil_append, readItems, hend, skipSpace_cons (by decide)]
  | @cons v x vs xs hv _ ih =>
      obtain ⟨fuel, rfl⟩ := Nat.exists_eq_succ_of_ne_zero (Nat.ne_zero_of_lt hfuel)
      have hlater := ih (Nat.lt_of_succ_lt_succ hfuel) false
      have hread := hv.reads _ (stops_listed (vs.map compact) (Or.inl rfl) rest)
      obtain ⟨c, s, hc, hspace, hend, -⟩ := hv.begins
      have hnext := nextItem_cons first .none .none hspace hend
        (s ++ (listed false (vs.map compact) ++ ']' :: rest))
      simp only [Gap.chars_none, List.nil_append] at hnext
      rw [hc, List.cons_append] at hread
      rw [List.map_cons, listed, List.append_assoc, List.append_assoc, hc, List.cons_append,
        readItems, hnext]
      simp only [hread, hlater]

theorem list {α : Type} {item : Reader α} {vs : List Json} {xs : List α}
    (h : List.Forall₂ (ReadsBack item) vs xs) : ReadsBack (readList item) (.array vs) xs := by
  refine ⟨⟨'[', _, compact_array vs, by decide, by decide, by simp⟩, fun rest _ => ?_⟩
  have hfuel : vs.length < (listed true (vs.map compact) ++ ']' :: rest).length + 1 := by
    have hle := length_le_listed true (vs.map compact)
    rw [List.length_map] at hle
    simp only [List.length_append, List.length_cons]
    omega
  have hitems := items h hfuel true rest
  rw [compact_array, List.cons_append, List.append_assoc, List.singleton_append, readList,
    skipSpace_cons (by decide)]
  simp only [hitems, closing, id, List.tail_cons]

end ReadsBack

/-! ### Fields -/

/-- Reading the values of fields, one after another, takes one draft to another.  Each field is
set for the first time. -/
inductive Fills {σ : Type} : List (Field σ × Json) → σ → σ → Prop
  | nil (draft : σ) : Fills [] draft draft
  | cons {field : Field σ} {v : Json} {fields : List (Field σ × Json)} {before between after : σ}
      (unset : field.isSet before = false) (value : ReadsBack (field.read before) v between)
      (rest : Fills fields between after) : Fills ((field, v) :: fields) before after

/-- A field with its value, as a member. -/
def memberOf {σ : Type} (f : Field σ × Json) : String × Json := (f.1.name, f.2)

namespace Record

variable {σ α : Type} (r : Record σ α)

/-- The members of an object are read into the draft. -/
theorem readMembers_of_fills {fields : List (Field σ × Json)} {before after : σ}
    (h : Fills fields before after)
    (known : ∀ f ∈ fields, r.fields.find? (·.name = f.1.name) = some f.1) {fuel : Nat}
    (hfuel : fields.length < fuel) (first : Bool) (rest : List Char) :
    r.readMembers fuel first before
      (listed first ((fields.map memberOf).map compactMember) ++ '}' :: rest) =
        .ok (after, '}' :: rest) := by
  induction h generalizing fuel first with
  | nil draft =>
      obtain ⟨fuel, rfl⟩ := Nat.exists_eq_succ_of_ne_zero (Nat.ne_zero_of_lt hfuel)
      have hend := nextKey_end first .none rest
      simp only [Gap.chars_none, List.nil_append] at hend
      rw [List.map_nil, List.map_nil, listed, List.nil_append, readMembers, hend,
        skipSpace_cons (by decide)]
  | @cons field v fields before between after unset value _ ih =>
      obtain ⟨fuel, rfl⟩ := Nat.exists_eq_succ_of_ne_zero (Nat.ne_zero_of_lt hfuel)
      obtain ⟨hfield, hfields⟩ := List.forall_mem_cons.mp known
      have hlater := ih hfields (Nat.lt_of_succ_lt_succ hfuel) false
      generalize hother : (fields.map memberOf).map compactMember = others at hlater
      have hread := value.reads _ (stops_listed others (Or.inr rfl) rest)
      obtain ⟨body, hquote, hbody⟩ := stringBody_quote field.name
        (':' :: (compact v ++ (listed false others ++ '}' :: rest)))
      have hnext := nextKey_quote first .none .none
        (body ++ ':' :: (compact v ++ (listed false others ++ '}' :: rest)))
      have hcolon : readColon (':' :: (compact v ++ (listed false others ++ '}' :: rest))) =
          .ok ((), compact v ++ (listed false others ++ '}' :: rest)) := by
        rw [readColon, skipSpace_cons (by decide)]
        rfl
      have htext : listed first ((((field, v) :: fields).map memberOf).map compactMember) ++
          '}' :: rest = comma first ++ '"' :: (body ++ ':' :: (compact v ++
            (listed false others ++ '}' :: rest))) := by
        rw [List.map_cons, List.map_cons, listed, hother, memberOf, compactMember, hquote]
        simp
      simp only [Gap.chars_none, List.nil_append] at hnext
      rw [htext, readMembers, hnext]
      simp only [hbody, String.ofList_toList, hfield, unset, hcolon, hread, hlater,
        Bool.false_eq_true, if_false]

/-- The items of a list are read into the draft, field by field. -/
theorem readFields_of_fills {fields : List (Field σ × Json)} {before after : σ}
    (h : Fills fields before after) (count : Nat) (rest : List Char) :
    r.readFields (fields.map Prod.fst) count before
      (listed (count = 0) ((fields.map Prod.snd).map compact) ++ ']' :: rest) =
        .ok (after, rest) := by
  induction h generalizing count with
  | nil draft =>
      rw [List.map_nil, List.map_nil, List.map_nil, listed, List.nil_append, readFields,
        readListEnd, skipSpace_cons (by decide)]
      rfl
  | @cons field v fields before between after _ value _ ih =>
      have hlater := ih (count + 1)
      rw [show decide (count + 1 = 0) = false by simp] at hlater
      generalize hother : (fields.map Prod.snd).map compact = others at hlater
      have hread := value.reads _ (stops_listed others (Or.inl rfl) rest)
      obtain ⟨c, s, hc, hspace, hend, -⟩ := value.begins
      have hnext := nextItem_cons (decide (count = 0)) .none .none hspace hend
        (s ++ (listed false others ++ ']' :: rest))
      simp only [Gap.chars_none, List.nil_append] at hnext
      rw [hc, List.cons_append] at hread
      rw [List.map_cons, List.map_cons, List.map_cons, listed, hother, List.append_assoc,
        List.append_assoc, hc, List.cons_append, readFields, hnext]
      simp only [hread, hlater]

end Record

/-- The forms in which a record may be written. -/
inductive Form where
  | object
  | list

/-- A record of these members in a form. -/
def Form.write : Form → List (String × Json) → Json
  | object, members => .object members
  | list, members => .array (members.map Prod.snd)

/-- Of fields with different names each is found by its own. -/
theorem Field.find?_name {σ : Type} {fields : List (Field σ)} (h : (fields.map Field.name).Nodup)
    {f : Field σ} (hf : f ∈ fields) : fields.find? (·.name = f.name) = some f := by
  induction fields with
  | nil => exact absurd hf (by simp)
  | cons g fields ih =>
      obtain ⟨hg, hrest⟩ := List.nodup_cons.mp h
      rcases List.mem_cons.mp hf with rfl | hf
      · exact List.find?_cons_of_pos (by simp)
      · have hne : g.name ≠ f.name := fun heq => hg (heq ▸ List.mem_map_of_mem hf)
        rw [List.find?_cons_of_neg (by simpa using hne)]
        exact ih hrest hf

/-- **A record that is written in either form is read back.** -/
theorem Record.readsBack {σ α : Type} (r : Record σ α) (values : List Json) {draft : σ} {x : α}
    (hlength : values.length = r.fields.length) (hnames : (r.fields.map Field.name).Nodup)
    (hfills : Fills (r.fields.zip values) r.start draft) (hfinish : r.finish draft = .ok x)
    (form : Form) : ReadsBack r.read (form.write ((r.fields.map Field.name).zip values)) x := by
  have hmembers : (r.fields.map Field.name).zip values = (r.fields.zip values).map memberOf := by
    rw [List.zip_map_left]
    rfl
  have hfields : (r.fields.zip values).map Prod.fst = r.fields :=
    List.map_fst_zip (Nat.le_of_eq hlength.symm)
  rw [hmembers]
  generalize r.fields.zip values = fields at hfills hfields
  cases form with
  | object =>
      rw [Form.write]
      refine ⟨⟨'{', _, compact_object _, by decide, by decide, by simp⟩, fun rest _ => ?_⟩
      have known : ∀ f ∈ fields, r.fields.find? (·.name = f.1.name) = some f.1 :=
        fun f hf => Field.find?_name hnames (hfields ▸ List.mem_map_of_mem hf)
      have hfuel : fields.length <
          (listed true ((fields.map memberOf).map compactMember) ++ '}' :: rest).length + 1 := by
        have hle := length_le_listed true ((fields.map memberOf).map compactMember)
        rw [List.length_map, List.length_map] at hle
        simp only [List.length_append, List.length_cons]
        omega
      have hmembers := r.readMembers_of_fills hfills known hfuel true rest
      rw [compact_object, List.cons_append, List.append_assoc, List.singleton_append, read,
        skipSpace_cons (by decide)]
      simp only [hmembers, hfinish, List.tail_cons]
  | list =>
      rw [Form.write]
      refine ⟨⟨'[', _, compact_array _, by decide, by decide, by simp⟩, fun rest _ => ?_⟩
      have hvalues : (fields.map memberOf).map Prod.snd = fields.map Prod.snd := by
        rw [List.map_map]
        rfl
      have hread := r.readFields_of_fills hfills 0 rest
      rw [hfields] at hread
      rw [hvalues, compact_array, List.cons_append, List.append_assoc, List.singleton_append, read,
        skipSpace_cons (by decide)]
      simp only [decide_true] at hread
      simp only [hread, hfinish]

/-- What is read back is what the whole text holds. -/
theorem ReadsBack.readText {α : Type} {reader : Reader α} {v : Json} {x : α}
    (h : ReadsBack reader v x) : Json.readText reader v.toCompactString = .ok x := by
  have hread := h.reads [] fun c rest hs => absurd hs (by simp)
  rw [List.append_nil] at hread
  rw [Json.readText, toCompactString, String.toList_ofList]
  simp only [hread]
  rfl

end HttpGet.Json
