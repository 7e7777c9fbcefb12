/-
Sections that are written and read back.

A section has a name and at most one setting.  It is written under a header, with its setting
on a line of its own, or as one line that gives its name an inline table.  Either way reading
it adds one table to the document, under its name, that holds the setting and nothing else; so
a document of sections with different names, in any order, is read as their tables.

The order in which sections are written does not show in the result, because the tables of a
document are kept by increasing name.  What is proved of a document is therefore stated by
membership.
-/
import HttpGet.Proofs.Lookup
import HttpGet.Proofs.Toml.Writing

namespace HttpGet.Toml

/-! ### Written sections -/

/-- A setting: its key and its written value. -/
structure Setting where
  key : String
  value : List Char

/-- A section: its name and its setting, if it has one. -/
structure Section where
  name : String
  setting : Option Setting

/-- How sections are written: under headers, or as inline tables. -/
inductive SectionForm where
  | header
  | inlineTable
deriving DecidableEq

/-- A setting as it is written. -/
def Setting.write (s : Setting) : List Char := s.key.toList ++ ' ' :: '=' :: ' ' :: s.value

/-- An inline table. -/
def writeInline : Option Setting → List Char
  | none => ['{', '}']
  | some s => '{' :: ' ' :: s.write ++ [' ', '}']

/-- A section as it is written. -/
def Section.write (x : Section) : SectionForm → List Char
  | .header =>
    '[' :: x.name.toList ++ ']' :: '\n' ::
      match x.setting with
      | none => []
      | some s => s.write ++ ['\n']
  | .inlineTable => Setting.write ⟨x.name, writeInline x.setting⟩ ++ ['\n']

/-- Whether a tree is a table that holds a setting, with a property of its value, and nothing
else. -/
def HoldsSetting (setting : Option Setting) (P : Tree → Prop) (tree : Tree) : Prop :=
  ∃ span entries, tree = .table span entries ∧
    match setting with
    | none => entries = []
    | some s => ∃ v, P v ∧ entries = [(s.key, v)]

/-- Whether a key can be written without marks. -/
def IsBareKey (name : String) : Prop := name.toList ≠ [] ∧ ∀ c ∈ name.toList, isBareChar c = true

/-! ### Keys -/

theorem isBareKey_of_all {name : String} (hne : name.toList ≠ [])
    (h : name.toList.all isBareChar = true) : IsBareKey name := ⟨hne, List.all_eq_true.mp h⟩

/-- A bare key begins with a character of such keys. -/
theorem IsBareKey.exists_cons {name : String} (h : IsBareKey name) :
    ∃ c cs, name.toList = c :: cs ∧ ∀ d, isBareChar d = false → c ≠ d := by
  obtain ⟨c, cs, hcs⟩ := List.exists_cons_of_ne_nil h.1
  refine ⟨c, cs, hcs, ?_⟩
  rintro d hd rfl
  rw [h.2 c (by rw [hcs]; simp)] at hd
  exact absurd hd (by simp)

theorem IsBareKey.append_ne_cons {name : String} (h : IsBareKey name) {d : Char}
    (hd : isBareChar d = false) (rest tail : List Char) : name.toList ++ rest ≠ d :: tail := by
  obtain ⟨c, cs, hcs, hc⟩ := h.exists_cons
  rw [hcs, List.cons_append]
  exact fun heq => hc d hd (List.cons.inj heq).1

theorem readSimpleKey_bare {name : String} (hname : IsBareKey name) {rest : List Char}
    (hrest : rest.head?.all (!isBareChar ·) = true) :
    readSimpleKey (name.toList ++ rest) =
      some (⟨.between (name.toList ++ rest) rest, name⟩, rest) := by
  obtain ⟨htake, hdrop⟩ := run_append hname.2 hrest
  rw [readSimpleKey.eq_3 _ (hname.append_ne_cons rfl rest) (hname.append_ne_cons rfl rest), htake,
    hdrop, String.ofList_toList, if_neg (by simpa using hname.1)]

theorem readKey_bare {name : String} (hname : IsBareKey name) {rest : List Char}
    (hrest : rest.head?.all (!isBareChar ·) = true) (hdot : (skipBlanks rest).head? ≠ some '.')
    (fuel : Nat) :
    readKey (fuel + 1) (name.toList ++ rest) =
      some (([], ⟨.between (name.toList ++ rest) rest, name⟩), rest) := by
  rw [readKey, readSimpleKey_bare hname hrest]
  simp only [Option.bind_eq_bind, Option.bind_some]
  split
  · rename_i tail htail
    rw [htail] at hdot
    exact absurd rfl hdot
  · rfl

theorem isSolid_bare {name : String} (hname : IsBareKey name) (rest : List Char) :
    IsSolid (name.toList ++ rest) := by
  obtain ⟨c, cs, hcs, hc⟩ := hname.exists_cons
  refine ⟨c, cs ++ rest, by rw [hcs]; rfl, ?_, hc '#' rfl, hc '\n' rfl, hc '\r' rfl⟩
  simp [isBlankChar, hc ' ' rfl, hc '\t' rfl]

theorem isSolid_setting {s : Setting} (hkey : IsBareKey s.key) (rest : List Char) :
    IsSolid (s.write ++ rest) := by
  rw [Setting.write, List.append_assoc]
  exact isSolid_bare hkey _

/-- A setting has a bare key, and its value is read with a property. -/
structure Setting.Reads (s : Setting) (nesting : Nat) (P : Tree → Prop) : Prop where
  key : IsBareKey s.key
  value : Toml.Reads nesting s.value P

/-! ### Characters of sections -/

theorem IsBareKey.not_mem {name : String} (h : IsBareKey name) : '$' ∉ name.toList :=
  fun hmem => absurd (h.2 '$' hmem) (by decide)

theorem Setting.not_mem_write {s : Setting} (hkey : IsBareKey s.key) (hvalue : '$' ∉ s.value) :
    '$' ∉ s.write := by
  simp [write, hkey.not_mem, hvalue]

theorem not_mem_writeInline {setting : Option Setting} (h : ∀ s ∈ setting, '$' ∉ s.write) :
    '$' ∉ writeInline setting := by
  cases setting with
  | none => decide
  | some s => simp [writeInline, h s rfl]

theorem Section.not_mem_write {x : Section} (hname : IsBareKey x.name)
    (hsetting : ∀ s ∈ x.setting, '$' ∉ s.write) (form : SectionForm) : '$' ∉ x.write form := by
  cases form with
  | header =>
      obtain ⟨name, setting⟩ := x
      cases setting with
      | none => simp [write, hname.not_mem]
      | some s => simp [write, hname.not_mem, hsetting s rfl]
  | inlineTable =>
      have hline : '$' ∉ (Setting.mk x.name (writeInline x.setting)).write :=
        Setting.not_mem_write hname (not_mem_writeInline hsetting)
      simp [write, hline]

/-! ### Inline tables -/

theorem IsSolid.append {s : List Char} (h : IsSolid s) (rest : List Char) :
    IsSolid (s ++ rest) := by
  obtain ⟨c, tail, rfl, hc⟩ := h
  exact ⟨c, tail ++ rest, rfl, hc⟩

theorem IsSolid.skipBlanks_eq {s : List Char} (h : IsSolid s) : skipBlanks s = s := by
  obtain ⟨c, tail, rfl, hc, -⟩ := h
  exact skipBlanks_cons hc tail

/-- A key is followed by a blank and an equals sign. -/
theorem readKey_setting {s : Setting} (hkey : IsBareKey s.key) (rest : List Char) (fuel : Nat) :
    ∃ span, readKey (fuel + 1) (s.write ++ rest) =
      some (([], ⟨span, s.key⟩), ' ' :: '=' :: ' ' :: (s.value ++ rest)) := by
  have hwritten : s.write ++ rest = s.key.toList ++ ' ' :: '=' :: ' ' :: (s.value ++ rest) := by
    simp [Setting.write]
  rw [hwritten]
  refine ⟨_, readKey_bare hkey rfl ?_ fuel⟩
  rw [skipBlanks_space, skipBlanks_cons rfl]
  simp

theorem assign_nil (key : Key) (v : Tree) :
    assign [] key v [] = some [(key.name, .value v)] := rfl

theorem readAssignment_setting {s : Setting} {P : Tree → Prop} (h : s.Reads 1 P) (depth : Nat)
    {rest : List Char} (hrest : rest.head?.all (!isWordChar ·) = true) :
    ∃ v, P v ∧ readAssignment (readValue (depth + 1)) [] (s.write ++ rest) =
      some ([(s.key, .value v)], rest) := by
  obtain ⟨span, hkey⟩ := readKey_setting h.key rest (s.write ++ rest).length
  have hequals : skipLayout (' ' :: '=' :: ' ' :: (s.value ++ rest)) =
      some ('=' :: ' ' :: (s.value ++ rest)) := skipLayout_space (isSolid_of_cons _ rfl)
  have hvalue : skipLayout (' ' :: (s.value ++ rest)) = some (s.value ++ rest) :=
    skipLayout_space (h.value.solid.append rest)
  obtain ⟨v, hv, hP⟩ := h.value.read depth rest hrest
  refine ⟨v, hP, ?_⟩
  simp only [readAssignment, hkey, hequals, hvalue, hv, assign_nil, Option.bind_eq_bind,
    Option.bind_some]
  rfl

/-- One assignment between braces. -/
theorem readInline_last {value : List Char → Option (Tree × List Char)}
    {s t after rest : List Char} {entries entries' : Entries} (hs : skipLayout s = some t)
    (ht : t.head? ≠ some '}') (hset : readAssignment value entries t = some (entries', after))
    (hafter : skipLayout after = some ('}' :: rest)) (fuel : Nat) :
    readInline value (fuel + 1) entries s = some (entries', rest) := by
  rw [readInline, hs]
  simp only [Option.bind_eq_bind, Option.bind_some]
  split
  · exact absurd rfl ht
  · simp only [hset, hafter, Option.bind_some]
    rfl

theorem reads_writeInline {setting : Option Setting} {P : Tree → Prop}
    (h : ∀ s ∈ setting, s.Reads 1 P) : Reads 2 (writeInline setting) (HoldsSetting setting P) := by
  cases setting with
  | none =>
      refine ⟨isSolid_of_cons _ rfl, fun depth rest _ => ?_⟩
      have hend : skipLayout ('}' :: rest) = some ('}' :: rest) :=
        skipLayout_of_isSolid (isSolid_of_cons rest rfl)
      rw [writeInline, List.cons_append, List.cons_append, List.nil_append, readValue.eq_4,
        readInline, hend]
      exact ⟨_, rfl, _, _, rfl, rfl⟩
  | some s =>
      have hs := h s rfl
      refine ⟨isSolid_of_cons _ rfl, fun depth rest _ => ?_⟩
      obtain ⟨v, hP, hread⟩ :=
        readAssignment_setting hs depth (show (' ' :: '}' :: rest).head?.all _ = true from rfl)
      have hwritten : writeInline (some s) ++ rest =
          '{' :: ' ' :: (s.write ++ ' ' :: '}' :: rest) := by
        simp [writeInline]
      have hstart : skipLayout (' ' :: (s.write ++ ' ' :: '}' :: rest)) =
          some (s.write ++ ' ' :: '}' :: rest) := skipLayout_space (isSolid_setting hs.key _)
      have hend : skipLayout (' ' :: '}' :: rest) = some ('}' :: rest) :=
        skipLayout_space (isSolid_of_cons rest rfl)
      have hopen : (s.write ++ ' ' :: '}' :: rest).head? ≠ some '}' := by
        obtain ⟨c, cs, hcs, hc⟩ := hs.key.exists_cons
        rw [Setting.write, hcs]
        simpa using hc '}' rfl
      rw [hwritten, readValue.eq_4, readInline_last hstart hopen hread hend]
      exact ⟨_, rfl, _, _, rfl, v, hP, rfl⟩

/-! ### Entries -/

section Entries

variable {α : Type}

theorem mem_insertEntry {key : String} {value : α} {entries : List (String × α)}
    {e : String × α} : e ∈ insertEntry key value entries ↔ e = (key, value) ∨ e ∈ entries := by
  induction entries with
  | nil => rw [insertEntry, List.mem_singleton, or_iff_left (by simp)]
  | cons f entries ih =>
      rw [insertEntry]
      split
      · rw [List.mem_cons, ih, List.mem_cons, or_left_comm]
      · rw [List.mem_cons]

theorem lookup_insertEntry (key key' : String) (value : α) (entries : List (String × α)) :
    (insertEntry key value entries).lookup key' =
      if key' = key then some value else entries.lookup key' := by
  induction entries with
  | nil => exact lookup_cons_eq key key' value []
  | cons f entries ih =>
      rw [insertEntry]
      by_cases hlt : f.1 < key
      · rw [if_pos hlt, lookup_cons_eq, ih, lookup_cons_eq]
        by_cases hf : key' = f.1
        · have hne : key' ≠ key := by
            rintro rfl
            exact absurd hlt (by rw [hf]; exact String.lt_irrefl f.1)
          rw [if_pos hf, if_pos hf, if_neg hne]
        · rw [if_neg hf, if_neg hf]
      · rw [if_neg hlt, lookup_cons_eq]

end Entries

theorem replaceEntry_of_lookup_eq_none {key : String} {node : Node} {entries : Entries}
    (h : entries.lookup key = none) : replaceEntry key node entries = entries := by
  induction entries with
  | nil => rfl
  | cons f entries ih =>
      rw [lookup_cons_eq] at h
      by_cases hf : key = f.1
      · simp [hf] at h
      · rw [if_neg hf] at h
        have hrest := ih h
        rw [replaceEntry] at hrest ⊢
        rw [List.map_cons, hrest, if_neg (Ne.symm hf)]

/-- Replacing the entry that was just inserted changes what was inserted. -/
theorem replaceEntry_insertEntry {key : String} {node node' : Node} {entries : Entries}
    (h : entries.lookup key = none) :
    replaceEntry key node' (insertEntry key node entries) = insertEntry key node' entries := by
  induction entries with
  | nil => simp [insertEntry, replaceEntry]
  | cons f entries ih =>
      have hrest := h
      rw [lookup_cons_eq] at hrest
      have hf : f.1 ≠ key := by
        rintro rfl
        simp at hrest
      rw [if_neg (Ne.symm hf)] at hrest
      rw [insertEntry, insertEntry]
      by_cases hlt : f.1 < key
      · rw [if_pos hlt, if_pos hlt, replaceEntry, List.map_cons, if_neg hf]
        exact congrArg _ (ih hrest)
      · have hkept : replaceEntry key node' (f :: entries) = _ := replaceEntry_of_lookup_eq_none h
        rw [replaceEntry] at hkept
        rw [if_neg hlt, if_neg hlt, replaceEntry, List.map_cons, if_pos rfl, hkept]

theorem entryTrees_eq_map (entries : Entries) :
    entryTrees entries = entries.map fun e => (e.1, e.2.tree) := by
  induction entries with
  | nil => rfl
  | cons e entries ih => rw [entryTrees, ih, List.map_cons, entryTree]

/-! ### Lines -/

theorem readLines_nil (fuel : Nat) (d : Draft) : readLines (fuel + 1) d [] = some d := rfl

/-- A line that holds something leaves what follows it. -/
theorem readLines_of_readLine {d d' : Draft} {s after : List Char} (hs : IsSolid s)
    (hline : readLine d s = some (d', after)) (fuel : Nat) :
    readLines (fuel + 1) d s =
      (skipComment? (skipBlanks after)).bind fun rest =>
        if rest = [] then some d' else (lineBreak? rest).bind (readLines fuel d') := by
  have hbreak := hs.lineBreak?_eq_none
  obtain ⟨c, tail, rfl, hblank, hcomment, -⟩ := hs
  rw [readLines, skipBlanks_cons hblank]
  have hsome : (decide ((c :: tail).head? = some '#') ||
      (lineBreak? (c :: tail)).isSome) = false := by
    simp [hbreak, hcomment]
  simp only [hsome, hline, Option.bind_eq_bind, Option.bind_some, if_neg Bool.false_ne_true]
  congr 1
  funext rest
  cases rest with
  | nil => rfl
  | cons c rest => rw [if_neg (List.cons_ne_nil c rest)]

theorem readLines_last {d d' : Draft} {s : List Char} (hs : IsSolid s)
    (hline : readLine d s = some (d', [])) (fuel : Nat) : readLines (fuel + 1) d s = some d' := by
  rw [readLines_of_readLine hs hline]
  rfl

theorem readLines_line {d d' : Draft} {s rest : List Char} (hs : IsSolid s)
    (hline : readLine d s = some (d', '\n' :: rest)) (fuel : Nat) :
    readLines (fuel + 1) d s = readLines fuel d' rest := by
  rw [readLines_of_readLine hs hline]
  rfl

/-- The line of a header opens the table of its name. -/
theorem readLine_header {d : Draft} {name : String} (hname : IsBareKey name)
    (hroot : d.root.lookup name = none) (rest : List Char) :
    ∃ key span, key.name = name ∧ readLine d ('[' :: name.toList ++ ']' :: rest) =
      some (⟨insertEntry name (.table span .header []) d.root, [key]⟩, rest) := by
  have hsolid := isSolid_bare hname (']' :: rest)
  have hheader : readHeader [']'] (name.toList ++ ']' :: rest) =
      some (([], ⟨.between (name.toList ++ ']' :: rest) (']' :: rest), name⟩), rest) := by
    have hbracket : skipBlanks (']' :: rest) = ']' :: rest := skipBlanks_cons rfl rest
    have hkey := readKey_bare hname (show (']' :: rest).head?.all _ = true from rfl)
      (by rw [hbracket]; simp) (name.toList ++ ']' :: rest).length
    rw [readHeader, hsolid.skipBlanks_eq]
    simp only [hkey, hbracket, Option.bind_eq_bind, Option.bind_some]
    rfl
  refine ⟨⟨.between (name.toList ++ ']' :: rest) (']' :: rest), name⟩,
    .between ('[' :: (name.toList ++ ']' :: rest)) rest, rfl, ?_⟩
  rw [List.cons_append, readLine.eq_2 _ _ (hname.append_ne_cons rfl _)]
  simp only [hheader, openTable, within, hroot, Option.bind_eq_bind, Option.bind_some]
  rfl

/-- The line of a setting sets its key in the current table. -/
theorem readLine_setting {s : Setting} {nesting : Nat} {P : Tree → Prop} (h : s.Reads nesting P)
    (hnesting : nesting ≤ depthLimit) (d : Draft) {rest : List Char}
    (hrest : rest.head?.all (!isWordChar ·) = true) :
    ∃ key v, key.name = s.key ∧ P v ∧
      readLine d (s.write ++ rest) = (d.assign [] key v).map fun d' => (d', rest) := by
  obtain ⟨span, hkey⟩ := readKey_setting h.key rest (s.write ++ rest).length
  obtain ⟨v, hv, hP⟩ := h.value.read (depthLimit - nesting) rest hrest
  rw [Nat.sub_add_cancel hnesting] at hv
  have hequals : skipBlanks (' ' :: '=' :: ' ' :: (s.value ++ rest)) =
      '=' :: ' ' :: (s.value ++ rest) := rfl
  have hvalue : skipBlanks (' ' :: (s.value ++ rest)) = s.value ++ rest := by
    rw [skipBlanks_space, (h.value.solid.append rest).skipBlanks_eq]
  refine ⟨⟨span, s.key⟩, v, rfl, hP, ?_⟩
  have hopen (tail : List Char) : s.write ++ rest ≠ '[' :: tail := by
    rw [Setting.write, List.append_assoc]
    exact h.key.append_ne_cons rfl _ tail
  rw [readLine.eq_3 _ _ (fun tail => hopen _) hopen]
  simp only [hkey, hequals, hvalue, hv, Option.bind_eq_bind, Option.bind_some]
  cases d.assign [] ⟨span, s.key⟩ v with
  | none => rfl
  | some d' => rfl

/-! ### Sections -/

theorem assign_root {root : Entries} {key : Key} (h : root.lookup key.name = none) (v : Tree) :
    Draft.assign ⟨root, []⟩ [] key v = some ⟨insertEntry key.name (.value v) root, []⟩ := by
  simp only [Draft.assign, within, assign, addNew, h, List.isEmpty_nil, Bool.true_or, if_true,
    Option.map_some]

/-- A key is set in a table that was just opened. -/
theorem assign_opened {root : Entries} {table key : Key} {span : Span}
    (h : root.lookup table.name = none) (v : Tree) :
    Draft.assign ⟨insertEntry table.name (.table span .header []) root, [table]⟩ [] key v =
      some ⟨insertEntry table.name (.table span .header [(key.name, .value v)]) root, [table]⟩ := by
  have hopened := lookup_insertEntry table.name table.name (.table span .header []) root
  rw [if_pos rfl] at hopened
  simp only [Draft.assign, within, hopened, assign_nil, Bool.false_and, Bool.false_eq_true,
    if_false, Option.map_some, replaceEntry_insertEntry h]

/-- Whether a section has a bare name and its setting is read with a property. -/
structure Section.Reads (x : Section) (P : Tree → Prop) : Prop where
  name : IsBareKey x.name
  setting : ∀ s ∈ x.setting, s.Reads 1 P

/-- Reading an inline table, which stands before all headers, adds it to the document. -/
theorem readLines_inlineTable {x : Section} {P : Tree → Prop} (h : x.Reads P) {root : Entries}
    (hroot : root.lookup x.name = none) (rest : List Char) (fuel : Nat) :
    ∃ node, HoldsSetting x.setting P node.tree ∧
      readLines (fuel + 1) ⟨root, []⟩ (x.write .inlineTable ++ rest) =
        readLines fuel ⟨insertEntry x.name node root, []⟩ rest := by
  have hline : (Setting.mk x.name (writeInline x.setting)).Reads 2 (HoldsSetting x.setting P) :=
    ⟨h.name, reads_writeInline h.setting⟩
  obtain ⟨key, v, hkey, hv, hread⟩ := readLine_setting hline (by decide) ⟨root, []⟩
    (show ('\n' :: rest).head?.all _ = true from rfl)
  have hname : key.name = x.name := hkey
  rw [assign_root (by rw [hname]; exact hroot), Option.map_some, hname] at hread
  refine ⟨.value v, hv, ?_⟩
  rw [Section.write, List.append_assoc, List.singleton_append]
  exact readLines_line (isSolid_setting h.name _) hread fuel

/-- Reading the line of a setting completes the table that was just opened. -/
theorem readLines_setting {s : Setting} {P : Tree → Prop} (h : s.Reads 1 P) {root : Entries}
    {table : Key} (hroot : root.lookup table.name = none) (span : Span) (rest : List Char)
    (fuel : Nat) :
    ∃ v, P v ∧
      readLines (fuel + 1) ⟨insertEntry table.name (.table span .header []) root, [table]⟩
          (s.write ++ '\n' :: rest) =
        readLines fuel ⟨insertEntry table.name (.table span .header [(s.key, .value v)]) root,
          [table]⟩ rest := by
  obtain ⟨key, v, hkey, hv, hread⟩ := readLine_setting h (by decide)
    ⟨insertEntry table.name (.table span .header []) root, [table]⟩
    (show ('\n' :: rest).head?.all _ = true from rfl)
  rw [assign_opened hroot, Option.map_some, hkey] at hread
  exact ⟨v, hv, readLines_line (isSolid_setting h.key _) hread fuel⟩

/-- Reading a section under its header adds its table to the document. -/
theorem readLines_header {x : Section} {P : Tree → Prop} (h : x.Reads P) {d : Draft}
    (hroot : d.root.lookup x.name = none) {rest : List Char} {fuel : Nat}
    (hfuel : (x.write .header ++ rest).length < fuel) :
    ∃ fuel' node key, HoldsSetting x.setting P node.tree ∧ rest.length < fuel' ∧
      readLines fuel d (x.write .header ++ rest) =
        readLines fuel' ⟨insertEntry x.name node d.root, [key]⟩ rest := by
  obtain ⟨name, setting⟩ := x
  cases setting with
  | none =>
      obtain ⟨key, span, -, hopen⟩ := readLine_header h.name hroot ('\n' :: rest)
      have hwritten : Section.write ⟨name, none⟩ .header ++ rest =
          '[' :: name.toList ++ ']' :: '\n' :: rest := by
        simp [Section.write]
      rw [hwritten] at hfuel ⊢
      obtain ⟨fuel, rfl⟩ := Nat.exists_eq_succ_of_ne_zero (Nat.ne_zero_of_lt hfuel)
      refine ⟨fuel, _, key, ⟨span, [], rfl, rfl⟩, ?_,
        readLines_line (isSolid_of_cons _ rfl) hopen fuel⟩
      simp only [List.length_append, List.length_cons] at hfuel
      omega
  | some s =>
      have hwritten : Section.write ⟨name, some s⟩ .header ++ rest =
          '[' :: name.toList ++ ']' :: '\n' :: (s.write ++ '\n' :: rest) := by
        simp [Section.write]
      obtain ⟨key, span, hkey, hopen⟩ :=
        readLine_header h.name hroot ('\n' :: (s.write ++ '\n' :: rest))
      have hname : key.name = name := hkey
      obtain ⟨fuel, rfl⟩ : ∃ k, fuel = k + 2 := by
        rw [hwritten] at hfuel
        simp only [List.length_append, List.length_cons] at hfuel
        exact ⟨fuel - 2, by omega⟩
      obtain ⟨v, hv, hset⟩ := readLines_setting (h.setting s rfl)
        (by rw [hname]; exact hroot) span rest fuel
      rw [hname] at hset
      refine ⟨fuel, .table span .header [(s.key, .value v)], key,
        ⟨span, _, rfl, v, hv, rfl⟩, ?_, ?_⟩
      · rw [hwritten] at hfuel
        simp only [List.length_append, List.length_cons] at hfuel
        omega
      · rw [hwritten]
        exact (readLines_line (isSolid_of_cons _ rfl) hopen (fuel + 1)).trans hset

/-- Reading a section adds its table to the document. -/
theorem readLines_section {x : Section} {P : Tree → Prop} (h : x.Reads P) (form : SectionForm)
    {d : Draft} (hroot : d.root.lookup x.name = none)
    (hcurrent : form = .inlineTable → d.current = []) {rest : List Char} {fuel : Nat}
    (hfuel : (x.write form ++ rest).length < fuel) :
    ∃ fuel' node current, HoldsSetting x.setting P node.tree ∧ rest.length < fuel' ∧
      (form = .inlineTable → current = []) ∧
      readLines fuel d (x.write form ++ rest) =
        readLines fuel' ⟨insertEntry x.name node d.root, current⟩ rest := by
  cases form with
  | header =>
      obtain ⟨fuel', node, key, hnode, hrest, hread⟩ := readLines_header h hroot hfuel
      exact ⟨fuel', node, [key], hnode, hrest, by simp, hread⟩
  | inlineTable =>
      obtain ⟨root, current⟩ := d
      obtain rfl : current = [] := hcurrent rfl
      obtain ⟨fuel, rfl⟩ := Nat.exists_eq_succ_of_ne_zero (Nat.ne_zero_of_lt hfuel)
      obtain ⟨node, hnode, hread⟩ := readLines_inlineTable h hroot rest fuel
      refine ⟨fuel, node, [], hnode, ?_, fun _ => rfl, hread⟩
      rw [Section.write, List.length_append, List.length_append] at hfuel
      simp only [List.length_singleton] at hfuel
      omega

/-! ### Documents -/

/-- Whether an entry of a document is that of a section. -/
def Section.Is (x : Section) (P : Tree → Prop) (e : String × Tree) : Prop :=
  e.1 = x.name ∧ HoldsSetting x.setting P e.2

section Documents

variable {ι : Type} {f : ι → Section} {P : ι → Tree → Prop}

/-- The text of sections. -/
def writeSections (form : SectionForm) (f : ι → Section) (is : List ι) : List Char :=
  is.flatMap fun i => (f i).write form

/-- Reading sections with different names adds their tables to the document. -/
theorem readLines_sections (form : SectionForm) {is : List ι} (h : ∀ i ∈ is, (f i).Reads (P i))
    (hnames : (is.map fun i => (f i).name).Nodup) {d : Draft}
    (hroot : ∀ i ∈ is, d.root.lookup (f i).name = none)
    (hcurrent : form = .inlineTable → d.current = []) {fuel : Nat}
    (hfuel : (writeSections form f is).length < fuel) :
    ∃ d', readLines fuel d (writeSections form f is) = some d' ∧
      (∀ e ∈ d.root, e ∈ d'.root) ∧
      (∀ e ∈ d'.root, e ∈ d.root ∨ ∃ i ∈ is, (f i).Is (P i) (e.1, e.2.tree)) ∧
      ∀ i ∈ is, ∃ e ∈ d'.root, (f i).Is (P i) (e.1, e.2.tree) := by
  induction is generalizing d fuel with
  | nil =>
      obtain ⟨fuel, rfl⟩ := Nat.exists_eq_succ_of_ne_zero (Nat.ne_zero_of_lt hfuel)
      exact ⟨d, readLines_nil fuel d, fun e he => he, fun e he => Or.inl he, by simp⟩
  | cons i is ih =>
      obtain ⟨hi, his⟩ := List.forall_mem_cons.mp h
      obtain ⟨hiroot, hisroot⟩ := List.forall_mem_cons.mp hroot
      rw [List.map_cons, List.nodup_cons] at hnames
      rw [writeSections, List.flatMap_cons] at hfuel ⊢
      obtain ⟨fuel', node, current, hnode, hrest, hcurrent', hread⟩ :=
        readLines_section hi form hiroot hcurrent hfuel
      have hfresh : ∀ j ∈ is, (insertEntry (f i).name node d.root).lookup (f j).name = none := by
        intro j hj
        have hne : (f j).name ≠ (f i).name := by
          intro heq
          rw [← heq] at hnames
          exact hnames.1 (List.mem_map_of_mem (f := fun i => (f i).name) hj)
        rw [lookup_insertEntry, if_neg hne, hisroot j hj]
      obtain ⟨d', hd', hkept, hadded, hfound⟩ :=
        ih (d := ⟨_, current⟩) his hnames.2 hfresh hcurrent' hrest
      refine ⟨d', hread.trans hd', fun e he => hkept e (mem_insertEntry.mpr (Or.inr he)), ?_, ?_⟩
      · intro e he
        obtain he | ⟨j, hj, hje⟩ := hadded e he
        · obtain rfl | he := mem_insertEntry.mp he
          · exact Or.inr ⟨i, List.mem_cons_self, rfl, hnode⟩
          · exact Or.inl he
        · exact Or.inr ⟨j, List.mem_cons_of_mem i hj, hje⟩
      · rw [List.forall_mem_cons]
        exact ⟨⟨_, hkept _ (mem_insertEntry.mpr (Or.inl rfl)), rfl, hnode⟩, hfound⟩

theorem withoutMark_cons {c : Char} (h : c ≠ '\uFEFF') (s : List Char) :
    withoutMark (c :: s) = c :: s := by
  unfold withoutMark
  split
  · rename_i heq
    exact absurd (List.cons.inj heq).1 h
  · rfl

theorem withoutMark_writeSections (form : SectionForm) {is : List ι}
    (h : ∀ i ∈ is, (f i).Reads (P i)) :
    withoutMark (writeSections form f is) = writeSections form f is := by
  cases is with
  | nil => rfl
  | cons i is =>
      rw [writeSections, List.flatMap_cons]
      cases form with
      | header => exact withoutMark_cons (by decide) _
      | inlineTable =>
          obtain ⟨c, cs, hcs, hc⟩ := (h i List.mem_cons_self).name.exists_cons
          rw [Section.write, Setting.write, hcs]
          exact withoutMark_cons (hc '\uFEFF' (by decide)) _

/-- **A document of sections with different names is read as their tables.** -/
theorem document?_writeSections (form : SectionForm) {is : List ι}
    (h : ∀ i ∈ is, (f i).Reads (P i)) (hnames : (is.map fun i => (f i).name).Nodup) :
    ∃ entries, document? (String.ofList (writeSections form f is)) = some entries ∧
      (∀ e ∈ entries, ∃ i ∈ is, (f i).Is (P i) e) ∧
      ∀ i ∈ is, ∃ e ∈ entries, (f i).Is (P i) e := by
  obtain ⟨d, hread, -, hadded, hfound⟩ :=
    readLines_sections (d := ⟨[], []⟩) form h hnames (by simp) (fun _ => rfl) (Nat.lt_succ_self _)
  refine ⟨entryTrees d.root, ?_, ?_, ?_⟩
  · rw [document?, String.toList_ofList, withoutMark_writeSections form h]
    simp only [hread, Option.map_some]
  · intro e he
    rw [entryTrees_eq_map, List.mem_map] at he
    obtain ⟨e', he', rfl⟩ := he
    exact (hadded e' he').resolve_left (by simp)
  · intro i hi
    obtain ⟨e, he, hie⟩ := hfound i hi
    exact ⟨(e.1, e.2.tree), by rw [entryTrees_eq_map]; exact List.mem_map_of_mem he, hie⟩

end Documents

/-- A section under its header may end the text with its setting. -/
theorem document?_header {name : String} (hname : IsBareKey name) {s : Setting}
    {P : Tree → Prop} (h : s.Reads 1 P) :
    ∃ span v, P v ∧ document? (String.ofList ('[' :: name.toList ++ ']' :: '\n' :: s.write)) =
      some [(name, .table span [(s.key, v)])] := by
  obtain ⟨table, span, rfl, hopen⟩ :=
    readLine_header (d := ⟨[], []⟩) hname rfl ('\n' :: s.write)
  obtain ⟨key, v, hkey, hv, hset⟩ := readLine_setting h (by decide)
    ⟨insertEntry table.name (.table span .header []) [], [table]⟩
    (show ([] : List Char).head?.all _ = true from rfl)
  have hsolid := isSolid_setting h.key []
  rw [assign_opened rfl, Option.map_some, hkey] at hset
  rw [List.append_nil] at hset hsolid
  have hread (fuel : Nat) := (readLines_line (isSolid_of_cons _ rfl) hopen (fuel + 1)).trans
    (readLines_last hsolid hset fuel)
  refine ⟨span, v, hv, ?_⟩
  rw [document?, String.toList_ofList, List.cons_append, withoutMark_cons (by decide)]
  exact congrArg (Option.map fun d => entryTrees d.root) (hread _)

end HttpGet.Toml
