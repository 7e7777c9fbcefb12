/-
The entries of a document are in order.

Whatever the text of a document, every table of it lists its entries by increasing key, so no key
is set twice.  A document is built up by few operations: a new entry is inserted where its key is
missing, an entry that is there is replaced under its own key, and a path leads from table to
table.  Each of them keeps a document in order, and so does reading, which uses nothing else.

Tables may stand in arrays and in other tables, and being in order is about all of them.  An
inline table is read in the same way as a document and is then closed, so it is in order when it
comes to stand in one.
-/
import Mathlib.Data.String.Basic
import HttpGet.Proofs.Toml.Sections

namespace HttpGet.Toml

/-! ### Entries by key -/

/-- Entries are listed by increasing key. -/
def ByKey {α : Type} (entries : List (String × α)) : Prop :=
  (entries.map Prod.fst).Pairwise (· < ·)

section ByKey

variable {α : Type} {entries : List (String × α)}

theorem ByKey.nil : ByKey ([] : List (String × α)) := List.Pairwise.nil

theorem byKey_cons {e : String × α} :
    ByKey (e :: entries) ↔ (∀ f ∈ entries, e.1 < f.1) ∧ ByKey entries := by
  unfold ByKey
  rw [List.map_cons, List.pairwise_cons, List.forall_mem_map]

/-- Entries by increasing key have different keys. -/
theorem ByKey.nodup (h : ByKey entries) : (entries.map Prod.fst).Nodup := nodup_of_increasing h

theorem ByKey.of_keys {β : Type} {entries' : List (String × β)} (h : ByKey entries)
    (hkeys : entries'.map Prod.fst = entries.map Prod.fst) : ByKey entries' := by
  unfold ByKey
  rw [hkeys]
  exact h

/-- A new key is inserted at its place. -/
theorem ByKey.insertEntry {key : String} {value : α} (h : ByKey entries)
    (hnew : entries.lookup key = none) : ByKey (insertEntry key value entries) := by
  induction entries with
  | nil => exact byKey_cons.mpr ⟨by simp, .nil⟩
  | cons e entries ih =>
      obtain ⟨hlt, hrest⟩ := byKey_cons.mp h
      rw [lookup_cons_eq] at hnew
      have hne : key ≠ e.1 := by
        intro heq
        simp [heq] at hnew
      rw [if_neg hne] at hnew
      unfold Toml.insertEntry
      by_cases he : e.1 < key
      · rw [if_pos he]
        refine byKey_cons.mpr ⟨?_, ih hrest hnew⟩
        intro f hf
        rcases mem_insertEntry.mp hf with rfl | hf
        · exact he
        · exact hlt f hf
      · have hkey : key < e.1 := lt_of_le_of_ne (String.not_lt.mp he) hne
        rw [if_neg he]
        refine byKey_cons.mpr ⟨?_, h⟩
        intro f hf
        rcases List.mem_cons.mp hf with rfl | hf
        · exact hkey
        · exact String.lt_trans hkey (hlt f hf)

end ByKey

theorem keys_replaceEntry (key : String) (node : Node) (entries : Entries) :
    (replaceEntry key node entries).map Prod.fst = entries.map Prod.fst := by
  rw [replaceEntry, List.map_map]
  refine List.map_congr_left ?_
  intro e _
  by_cases h : e.1 = key
  · simp [h]
  · simp [h]

/-! ### Values in order -/

/-- Every table of a value lists its entries by increasing key. -/
inductive Tree.Ordered : Tree → Prop
  | scalar (span : Span) (value : Scalar) : Ordered (.scalar span value)
  | array (span : Span) {items : List Tree} (h : ∀ t ∈ items, Ordered t) :
      Ordered (.array span items)
  | table (span : Span) {entries : List (String × Tree)} (hkeys : ByKey entries)
      (h : ∀ e ∈ entries, Ordered e.2) : Ordered (.table span entries)

/-- Every table of a part of a document lists its entries by increasing key. -/
inductive Node.Ordered : Node → Prop
  | value {tree : Tree} (h : tree.Ordered) : Ordered (.value tree)
  | table (span : Span) (origin : Origin) {entries : Entries} (hkeys : ByKey entries)
      (h : ∀ e ∈ entries, Ordered e.2) : Ordered (.table span origin entries)
  | tables (span : Span) {newest : Span × List (String × Node)}
      {older : List (Span × List (String × Node))} (hkeys : ∀ t ∈ newest :: older, ByKey t.2)
      (h : ∀ t ∈ newest :: older, ∀ e ∈ t.2, Ordered e.2) : Ordered (.tables span newest older)

/-- A table that is being read lists its entries by increasing key, and so does every table
in it. -/
structure Entries.Ordered (entries : Entries) : Prop where
  keys : ByKey entries
  nodes : ∀ e ∈ entries, e.2.Ordered

/-- The tables of a list are told in the order in which they were read. -/
theorem tableTrees_eq (older : List (Span × List (String × Node))) (later : List Tree) :
    tableTrees older later = (older.map tableTree).reverse ++ later := by
  induction older generalizing later with
  | nil => rfl
  | cons t older ih =>
      rw [tableTrees, ih, List.map_cons, List.reverse_cons, List.append_assoc,
        List.singleton_append]

theorem byKey_entryTrees {entries : Entries} (h : ByKey entries) : ByKey (entryTrees entries) := by
  rw [entryTrees_eq_map]
  refine h.of_keys ?_
  rw [List.map_map]
  rfl

/-- The value of a part of a document is in order if the part is. -/
theorem Node.Ordered.tree {node : Node} (h : node.Ordered) : node.tree.Ordered := by
  induction h with
  | value h => exact h
  | table span origin hkeys _ ih =>
      refine .table span (byKey_entryTrees hkeys) ?_
      rw [entryTrees_eq_map, List.forall_mem_map]
      exact ih
  | @tables span newest older hkeys _ ih =>
      refine .array span ?_
      intro t ht
      obtain ⟨table, htable, rfl⟩ : ∃ table ∈ newest :: older, tableTree table = t := by
        rw [tableTrees_eq, List.mem_append, List.mem_reverse, List.mem_map,
          List.mem_singleton] at ht
        rcases ht with ⟨table, htable, rfl⟩ | rfl
        · exact ⟨table, List.mem_cons_of_mem _ htable, rfl⟩
        · exact ⟨newest, List.mem_cons_self, rfl⟩
      obtain ⟨tableSpan, entries⟩ := table
      refine .table tableSpan (byKey_entryTrees (hkeys _ htable)) ?_
      rw [entryTrees_eq_map, List.forall_mem_map]
      exact ih _ htable

/-! ### Building -/

namespace Entries.Ordered

variable {entries : Entries}

theorem nil : Entries.Ordered [] := ⟨.nil, by simp⟩

theorem node_of_lookup (h : entries.Ordered) {key : String} {node : Node}
    (hnode : entries.lookup key = some node) : node.Ordered :=
  h.nodes _ ((lookup_eq_some_iff_mem h.keys.nodup).mp hnode)

theorem insert (h : entries.Ordered) {key : String} {node : Node}
    (hnew : entries.lookup key = none) (hnode : node.Ordered) :
    Entries.Ordered (insertEntry key node entries) := by
  refine ⟨h.keys.insertEntry hnew, ?_⟩
  intro e he
  rcases mem_insertEntry.mp he with rfl | he
  · exact hnode
  · exact h.nodes e he

theorem replace (h : entries.Ordered) (key : String) {node : Node} (hnode : node.Ordered) :
    Entries.Ordered (replaceEntry key node entries) := by
  refine ⟨h.keys.of_keys (keys_replaceEntry key node entries), ?_⟩
  unfold replaceEntry
  rw [List.forall_mem_map]
  intro e he
  by_cases hkey : e.1 = key
  · rw [if_pos hkey]
    exact hnode
  · rw [if_neg hkey]
    exact h.nodes e he

theorem table (h : entries.Ordered) (span : Span) (origin : Origin) :
    (Node.table span origin entries).Ordered := .table span origin h.keys h.nodes

theorem tables (h : entries.Ordered) (span newest : Span)
    {older : List (Span × List (String × Node))} (holder : ∀ t ∈ older, Entries.Ordered t.2) :
    (Node.tables span (newest, entries) older).Ordered := by
  have hall : ∀ t ∈ (newest, entries) :: older, Entries.Ordered t.2 :=
    List.forall_mem_cons.mpr ⟨h, holder⟩
  exact .tables span (fun t ht => (hall t ht).keys) fun t ht => (hall t ht).nodes

end Entries.Ordered

theorem Node.Ordered.entries {span : Span} {origin : Origin} {entries : Entries}
    (h : (Node.table span origin entries).Ordered) : entries.Ordered := by
  cases h with
  | table _ _ hkeys hnodes => exact ⟨hkeys, hnodes⟩

theorem Node.Ordered.entriesOfTables {span : Span} {newest : Span × List (String × Node)}
    {older : List (Span × List (String × Node))} (h : (Node.tables span newest older).Ordered) :
    ∀ t ∈ newest :: older, Entries.Ordered t.2 := by
  cases h with
  | tables _ hkeys hnodes => exact fun t ht => ⟨hkeys t ht, hnodes t ht⟩

/-- Changing the table that a path leads to keeps a document in order, if the change does. -/
theorem ordered_within {byDottedKey : Bool} {change : Origin → Entries → Option Entries}
    (hchange : ∀ origin {entries entries' : Entries}, entries.Ordered →
      change origin entries = some entries' → entries'.Ordered)
    {path : List Key} {origin : Origin} {entries entries' : Entries} (h : entries.Ordered)
    (hwithin : within byDottedKey change path origin entries = some entries') :
    entries'.Ordered := by
  induction path generalizing origin entries entries' with
  | nil => exact hchange origin h hwithin
  | cons key path ih =>
      unfold within at hwithin
      cases hlookup : entries.lookup key.name with
      | none =>
          simp only [hlookup] at hwithin
          obtain ⟨inner, hinner, rfl⟩ := Option.map_eq_some_iff.mp hwithin
          exact h.insert hlookup ((ih .nil hinner).table key.span _)
      | some node =>
          have hnode := h.node_of_lookup hlookup
          cases node with
          | value tree =>
              simp only [hlookup] at hwithin
              exact absurd hwithin (by simp)
          | table span origin' own =>
              simp only [hlookup, Option.ite_none_left_eq_some] at hwithin
              obtain ⟨inner, hinner, rfl⟩ := Option.map_eq_some_iff.mp hwithin.2
              exact h.replace key.name ((ih hnode.entries hinner).table span origin')
          | tables span newest older =>
              obtain ⟨newestSpan, own⟩ := newest
              simp only [hlookup] at hwithin
              obtain ⟨hown, holder⟩ := List.forall_mem_cons.mp hnode.entriesOfTables
              obtain ⟨inner, hinner, rfl⟩ := Option.map_eq_some_iff.mp hwithin
              exact h.replace key.name ((ih hown hinner).tables span newestSpan holder)

theorem ordered_addNew {key : Key} {node : Node} (hnode : node.Ordered)
    {entries entries' : Entries} (h : entries.Ordered)
    (hadd : addNew key node entries = some entries') : entries'.Ordered := by
  unfold addNew at hadd
  cases hlookup : entries.lookup key.name with
  | none =>
      rw [hlookup] at hadd
      obtain rfl := Option.some.inj hadd
      exact h.insert hlookup hnode
  | some old =>
      rw [hlookup] at hadd
      exact absurd hadd (by simp)

/-- Setting a key keeps a table in order. -/
theorem ordered_assign {path : List Key} {key : Key} {value : Tree} (hvalue : value.Ordered)
    {entries entries' : Entries} (h : entries.Ordered)
    (hassign : assign path key value entries = some entries') : entries'.Ordered := by
  refine ordered_within ?_ h hassign
  intro origin inner inner' hinner hchange
  rw [Option.ite_none_right_eq_some] at hchange
  exact ordered_addNew (.value hvalue) hinner hchange.2

/-- Opening the table of a header keeps a document in order. -/
theorem ordered_openTable {path : List Key} {key : Key} {span : Span} {root root' : Entries}
    (h : root.Ordered) (hopen : openTable path key span root = some root') : root'.Ordered := by
  refine ordered_within ?_ h hopen
  intro _ inner inner' hinner hchange
  split at hchange
  · rename_i hlookup
    obtain rfl := Option.some.inj hchange
    exact hinner.insert hlookup (Entries.Ordered.nil.table span .header)
  · rename_i own hlookup
    obtain rfl := Option.some.inj hchange
    exact hinner.replace key.name ((hinner.node_of_lookup hlookup).entries.table span .header)
  · exact absurd hchange (by simp)

/-- Appending a table to the list of a header keeps a document in order. -/
theorem ordered_appendTable {path : List Key} {key : Key} {span : Span} {root root' : Entries}
    (h : root.Ordered) (happend : appendTable path key span root = some root') :
    root'.Ordered := by
  refine ordered_within ?_ h happend
  intro _ inner inner' hinner hchange
  split at hchange
  · rename_i hlookup
    obtain rfl := Option.some.inj hchange
    exact hinner.insert hlookup (Entries.Ordered.nil.tables span span (by simp))
  · rename_i first newest older hlookup
    obtain rfl := Option.some.inj hchange
    have htables := (hinner.node_of_lookup hlookup).entriesOfTables
    exact hinner.replace key.name (Entries.Ordered.nil.tables first span htables)
  · exact absurd hchange (by simp)

/-! ### Reading -/

/-- Reads values in order only. -/
def ReadsOrdered (read : List Char → Option (Tree × List Char)) : Prop :=
  ∀ {s : List Char} {v : Tree} {after : List Char}, read s = some (v, after) → v.Ordered

theorem ordered_readItems {item : List Char → Option (Tree × List Char)} (hitem : ReadsOrdered item)
    {fuel : Nat} {s : List Char} {items : List Tree} {after : List Char}
    (h : readItems item fuel s = some (items, after)) : ∀ t ∈ items, t.Ordered := by
  induction fuel generalizing s items after with
  | zero => exact absurd h (by simp [readItems])
  | succ fuel ih =>
      rw [readItems] at h
      obtain ⟨s, -, h⟩ := Option.bind_eq_some_iff.mp h
      split at h
      · obtain ⟨rfl, -⟩ := Prod.mk.inj (Option.some.inj h)
        simp
      · obtain ⟨⟨v, s'⟩, hv, h⟩ := Option.bind_eq_some_iff.mp h
        obtain ⟨s'', -, h⟩ := Option.bind_eq_some_iff.mp h
        split at h
        · obtain ⟨⟨vs, rest⟩, hvs, h⟩ := Option.bind_eq_some_iff.mp h
          obtain ⟨rfl, -⟩ := Prod.mk.inj (Option.some.inj h)
          exact List.forall_mem_cons.mpr ⟨hitem hv, ih hvs⟩
        · obtain ⟨rfl, -⟩ := Prod.mk.inj (Option.some.inj h)
          exact List.forall_mem_singleton.mpr (hitem hv)
        · exact absurd h (by simp)

theorem ordered_readAssignment {value : List Char → Option (Tree × List Char)}
    (hvalue : ReadsOrdered value) {entries entries' : Entries} {s after : List Char}
    (hentries : entries.Ordered) (h : readAssignment value entries s = some (entries', after)) :
    entries'.Ordered := by
  rw [readAssignment] at h
  obtain ⟨⟨⟨path, key⟩, s⟩, -, h⟩ := Option.bind_eq_some_iff.mp h
  obtain ⟨s', -, h⟩ := Option.bind_eq_some_iff.mp h
  split at h
  · obtain ⟨s'', -, h⟩ := Option.bind_eq_some_iff.mp h
    obtain ⟨⟨v, rest⟩, hv, h⟩ := Option.bind_eq_some_iff.mp h
    obtain ⟨entries'', hassign, h⟩ := Option.bind_eq_some_iff.mp h
    obtain ⟨rfl, -⟩ := Prod.mk.inj (Option.some.inj h)
    exact ordered_assign (hvalue hv) hentries hassign
  · exact absurd h (by simp)

theorem ordered_readInline {value : List Char → Option (Tree × List Char)}
    (hvalue : ReadsOrdered value) {fuel : Nat} {entries entries' : Entries} {s after : List Char}
    (hentries : entries.Ordered) (h : readInline value fuel entries s = some (entries', after)) :
    entries'.Ordered := by
  induction fuel generalizing entries s with
  | zero => exact absurd h (by simp [readInline])
  | succ fuel ih =>
      rw [readInline] at h
      obtain ⟨s, -, h⟩ := Option.bind_eq_some_iff.mp h
      split at h
      · obtain ⟨rfl, -⟩ := Prod.mk.inj (Option.some.inj h)
        exact hentries
      · obtain ⟨⟨more, s'⟩, hmore, h⟩ := Option.bind_eq_some_iff.mp h
        have hordered := ordered_readAssignment hvalue hentries hmore
        obtain ⟨s'', -, h⟩ := Option.bind_eq_some_iff.mp h
        split at h
        · exact ih hordered h
        · obtain ⟨rfl, -⟩ := Prod.mk.inj (Option.some.inj h)
          exact hordered
        · exact absurd h (by simp)

/-- Every value that is read is in order, however deep it may nest. -/
theorem readsOrdered_readValue (depth : Nat) : ReadsOrdered (readValue depth) := by
  induction depth using Nat.strong_induction_on with
  | _ depth ih =>
      intro s v after h
      unfold readValue at h
      split at h
      · split at h
        · exact absurd h (by simp)
        · rename_i depth
          obtain ⟨⟨items, rest⟩, hitems, h⟩ := Option.bind_eq_some_iff.mp h
          obtain ⟨rfl, -⟩ := Prod.mk.inj (Option.some.inj h)
          exact .array _ (ordered_readItems (ih depth (Nat.lt_succ_self depth)) hitems)
      · split at h
        · exact absurd h (by simp)
        · rename_i depth
          obtain ⟨⟨entries, rest⟩, hentries, h⟩ := Option.bind_eq_some_iff.mp h
          obtain ⟨rfl, -⟩ := Prod.mk.inj (Option.some.inj h)
          have hordered := ordered_readInline (ih depth (Nat.lt_succ_self depth)) .nil hentries
          exact (hordered.table _ .header).tree
      · -- a string or another word: in either case a scalar
        split at h
        all_goals
          obtain ⟨p, -, h⟩ := Option.bind_eq_some_iff.mp h
          obtain ⟨rfl, -⟩ := Prod.mk.inj (Option.some.inj h)
          exact .scalar _ _

/-- A line keeps a document in order. -/
theorem ordered_readLine {d d' : Draft} {s after : List Char} (hd : d.root.Ordered)
    (h : readLine d s = some (d', after)) : d'.root.Ordered := by
  unfold readLine at h
  split at h
  · obtain ⟨⟨⟨path, key⟩, rest⟩, -, h⟩ := Option.bind_eq_some_iff.mp h
    obtain ⟨root, hroot, h⟩ := Option.bind_eq_some_iff.mp h
    obtain ⟨rfl, -⟩ := Prod.mk.inj (Option.some.inj h)
    exact ordered_appendTable hd hroot
  · obtain ⟨⟨⟨path, key⟩, rest⟩, -, h⟩ := Option.bind_eq_some_iff.mp h
    obtain ⟨root, hroot, h⟩ := Option.bind_eq_some_iff.mp h
    obtain ⟨rfl, -⟩ := Prod.mk.inj (Option.some.inj h)
    exact ordered_openTable hd hroot
  · obtain ⟨⟨⟨path, key⟩, rest⟩, -, h⟩ := Option.bind_eq_some_iff.mp h
    dsimp only at h
    split at h
    · obtain ⟨⟨v, rest⟩, hv, h⟩ := Option.bind_eq_some_iff.mp h
      obtain ⟨next, hnext, h⟩ := Option.bind_eq_some_iff.mp h
      obtain ⟨rfl, -⟩ := Prod.mk.inj (Option.some.inj h)
      obtain ⟨root, hroot, rfl⟩ := Option.map_eq_some_iff.mp hnext
      refine ordered_within ?_ hd hroot
      intro _ inner inner' hinner hassign
      exact ordered_assign (readsOrdered_readValue _ hv) hinner hassign
    · exact absurd h (by simp)

/-- The lines of a document keep it in order. -/
theorem ordered_readLines {fuel : Nat} {d d' : Draft} {s : List Char} (hd : d.root.Ordered)
    (h : readLines fuel d s = some d') : d'.root.Ordered := by
  induction fuel generalizing d s with
  | zero => exact absurd h (by simp [readLines])
  | succ fuel ih =>
      unfold readLines at h
      split at h
      · obtain rfl := Option.some.inj h
        exact hd
      · dsimp only at h
        split at h
        all_goals obtain ⟨⟨next, s'⟩, hline, h⟩ := Option.bind_eq_some_iff.mp h
        -- an empty line leaves the document as it is
        on_goal 1 => obtain ⟨rfl, -⟩ := Prod.mk.inj (Option.some.inj hline)
        on_goal 2 => replace hd := ordered_readLine hd hline
        all_goals
          obtain ⟨s'', -, h⟩ := Option.bind_eq_some_iff.mp h
          split at h
          · obtain rfl := Option.some.inj h
            exact hd
          · obtain ⟨rest, -, h⟩ := Option.bind_eq_some_iff.mp h
            exact ih hd h

/-- The entries of a document and of every table in it are listed by increasing key: no text sets
a key twice. -/
theorem ordered_of_document? {text : String} {root : List (String × Tree)}
    (h : document? text = some root) : ByKey root ∧ ∀ e ∈ root, e.2.Ordered := by
  obtain ⟨d, hd, rfl⟩ := Option.map_eq_some_iff.mp h
  have hroot : d.root.Ordered := ordered_readLines .nil hd
  refine ⟨byKey_entryTrees hroot.keys, ?_⟩
  rw [entryTrees_eq_map, List.forall_mem_map]
  intro e he
  exact (hroot.nodes e he).tree

end HttpGet.Toml
