/-
Log lines as JSON.

Whatever the URIs, the messages and the paths of a run hold, its log cannot be broken by them.
In the JSON form each event that is shown is one line of standard error, the line is decoded to
the document of just that event, and in the event of a result the URI is the one whose result it
is.

Two things carry this.  A compact text has no control character, so the only line break of an
event is the one after it; and every other piece on standard error ends in a line break, so each
event begins on a line of its own.  The document of a line lists its members by key, which is
not the order in which they are written.
-/
import HttpGet.Proofs.Json.InOrder
import HttpGet.Proofs.Lookup
import HttpGet.Proofs.Presentation

namespace HttpGet

/-! ### The document of an event -/

/-- What stands in a value at the end of a path of keys. -/
def Json.at? : List String → Json → Option Json
  | [], v => some v
  | key :: path, .object members => (members.lookup key).bind (at? path)
  | _ :: _, _ => none

theorem Json.spellable_ofInt (k : Int) (n : Nat) : Spellable n (.ofInt k) := by
  unfold Json.ofInt
  split
  · exact .integer _
  · exact .null

theorem Json.inOrder_ofInt (k : Int) : (Json.ofInt k).inOrder = .ofInt k := by
  unfold Json.ofInt
  split
  · rw [inOrder]
  · rw [inOrder]

namespace Log

theorem Value.spellable (v : Value) (n : Nat) : Json.Spellable n v.toJson := by
  cases v with
  | quoted s => exact .text s
  | plain s => exact .text s
  | number k => exact Json.spellable_ofInt k n

theorem Value.inOrder_toJson (v : Value) : v.toJson.inOrder = v.toJson := by
  cases v with
  | quoted s => rfl
  | plain s => rfl
  | number k => exact Json.inOrder_ofInt k

namespace Event

/-- What an event holds: its message, and its fields. -/
def members (e : Event) : List (String × Json) :=
  ("message", .text e.message) :: e.fields.map fun f => (f.1, f.2.toJson)

/-- The document of an event: when it was, how grave it is, and what it holds. -/
def document (time : String) (e : Event) : Json :=
  .object [("fields", Json.ofMembers e.members), ("level", .text e.level.name),
    ("timestamp", .text time)]

/-- The line of an event, without its line break. -/
def line (time : String) (e : Event) : String := (e.toJson time).toCompactString

theorem spellable_toJson (time : String) (e : Event) (n : Nat) :
    Json.Spellable (n + 2) (e.toJson time) := by
  refine .object ?_
  intro m hm
  rcases List.mem_cons.mp hm with rfl | hm
  · exact .text time
  rcases List.mem_cons.mp hm with rfl | hm
  · exact .text e.level.name
  obtain rfl := List.mem_singleton.mp hm
  refine .object ?_
  intro m hm
  rcases List.mem_cons.mp hm with rfl | hm
  · exact .text e.message
  · obtain ⟨f, -, rfl⟩ := List.mem_map.mp hm
    exact f.2.spellable n

theorem inOrder_toJson (time : String) (e : Event) : (e.toJson time).inOrder = e.document time := by
  have hfields : (Json.object e.members).inOrder = Json.ofMembers e.members := by
    rw [Json.inOrder, Json.inOrderMembers_eq, members, List.map_cons, List.map_map]
    congr 2
    refine List.map_congr_left ?_
    intro f _
    show (f.1, f.2.toJson.inOrder) = _
    rw [f.2.inOrder_toJson]
  have hlevel : "level" < "timestamp" := by decide +kernel
  have hbefore : "fields" < "level" := by decide +kernel
  show Json.ofMembers [("timestamp", .text time), ("level", .text e.level.name),
    ("fields", (Json.object e.members).inOrder)] = _
  rw [hfields]
  unfold document Json.ofMembers
  simp [Json.setMember, hlevel, hbefore]

/-- The line of an event is decoded to the document of the event, wherever JSON is announced. -/
theorem decode_line (time : String) (e : Event) (left right : String) :
    Payload.decode (Payload.announcing left right) (e.line time) =
      .ok (.json (e.document time)) := by
  have hwritten := Json.written_inOrder (e.spellable_toJson time 125)
  rw [inOrder_toJson] at hwritten
  exact (decode_eq_json_iff (isJsonContent_append left right)).mpr hwritten.spells

/-- No line break stands in the line of an event. -/
theorem not_mem_line (time : String) (e : Event) : '\n' ∉ (e.line time).toList := by
  intro hmem
  rw [line, Json.toCompactString, String.toList_ofList] at hmem
  exact absurd (Json.le_toNat_of_mem_compact _ _ hmem) (by decide)

/-- Where names do not repeat, the document of an event gives all that the event holds. -/
theorem at?_document {e : Event} (h : (e.members.map Prod.fst).Nodup) {m : String × Json}
    (hm : m ∈ e.members) (time : String) :
    (e.document time).at? ["fields", m.1] = some m.2 := by
  obtain ⟨ms, hms⟩ : ∃ ms, Json.ofMembers e.members = .object ms := ⟨_, rfl⟩
  have hobject : Json.ObjectOf e.members ms := Json.ofMembers_eq_iff.mp hms
  have hlookup : ms.lookup m.1 = some m.2 := by
    refine (lookup_eq_some_iff_mem (Json.nodup_keys hobject.increasing)).mpr ?_
    exact (hobject.mem_iff m).mpr ((Json.isLast_iff_mem h).mpr hm)
  show (Json.ofMembers e.members).at? [m.1] = some m.2
  rw [hms]
  show (ms.lookup m.1).bind some = some m.2
  rw [hlookup]
  rfl

end Event
end Log

/-! ### The lines of standard error -/

/-- The lines that a piece of what a run writes puts on standard error, if log events are shown
as JSON: a text its own, and an event that passes the filter one line, which is decoded to the
document of the event. -/
inductive Emission.Shows (filter : Log.Filter) (time : String) : Emission → List String → Prop
  | out (text : String) : Shows filter time (.out text) []
  | err {text : String} {lines : List String} (hlines : ∀ line ∈ lines, '\n' ∉ line.toList)
      (h : text.toList = lines.flatMap fun line => line.toList ++ ['\n']) :
      Shows filter time (.err text) lines
  | hidden {e : Log.Event} (h : filter.passes e = false) : Shows filter time (.log e) []
  | event {e : Log.Event} {line : String} (h : filter.passes e = true)
      (hline : '\n' ∉ line.toList)
      (hdecode : ∀ left right, Payload.decode (Payload.announcing left right) line =
        .ok (.json (e.document time))) :
      Shows filter time (.log e) [line]

/-- Lines with a line break after each are those lines joined by line breaks, and one more. -/
theorem flatMap_append_eq_joinWith {α : Type} (sep : List α) {pieces : List (List α)}
    (h : pieces ≠ []) : pieces.flatMap (· ++ sep) = joinWith sep pieces ++ sep := by
  induction pieces with
  | nil => exact absurd rfl h
  | cons piece pieces ih =>
      cases pieces with
      | nil => simp [joinWith]
      | cons next pieces =>
          have hnext := List.cons_ne_nil next pieces
          rw [List.flatMap_cons, ih hnext, joinWith.eq_3 _ _ _ hnext]
          simp only [List.append_assoc]

/-- A text that ends in a line break is made of lines. -/
theorem exists_lines (text : String) : ∃ lines : List String,
    (∀ line ∈ lines, '\n' ∉ line.toList) ∧
      (text ++ "\n").toList = lines.flatMap fun line => line.toList ++ ['\n'] := by
  refine ⟨(splitWhere (· = '\n') text.toList).map String.ofList, ?_, ?_⟩
  · intro line hline hmem
    obtain ⟨piece, hpiece, rfl⟩ := List.mem_map.mp hline
    rw [String.toList_ofList] at hmem
    exact absurd (mem_splitWhere hpiece _ hmem).1 (by decide)
  · have hjoin := flatMap_append_eq_joinWith ['\n'] (splitWhere_ne_nil (· = '\n') text.toList)
    rw [joinWith_splitWhere] at hjoin
    rw [List.flatMap_map, String.toList_append]
    simp only [String.toList_ofList]
    exact hjoin.symm

namespace Emission

variable {l : Logging}

/-- Where log events are shown as JSON, a piece puts lines on standard error, if a text that it
puts there ends in a line break. -/
theorem exists_shows (hjson : l.json = true) (time : String) {x : Emission}
    (hx : ∀ text, x = .err text → ∃ start, text = start ++ "\n") :
    ∃ lines, x.Shows l.filter time lines ∧ (∀ line ∈ lines, '\n' ∉ line.toList) ∧
      (x.onStderr l time).toList = lines.flatMap fun line => line.toList ++ ['\n'] := by
  cases x with
  | out text => exact ⟨[], .out text, by simp, rfl⟩
  | err text =>
      obtain ⟨start, rfl⟩ := hx text rfl
      obtain ⟨lines, hlines, h⟩ := exists_lines start
      exact ⟨lines, .err hlines h, hlines, h⟩
  | log e =>
      show ∃ lines, _ ∧ _ ∧ (l.line time e).toList = _
      unfold Logging.line
      by_cases hpasses : l.filter.passes e = true
      · rw [if_pos hpasses, if_pos hjson]
        refine ⟨[e.line time], .event hpasses (e.not_mem_line time) (e.decode_line time), ?_, ?_⟩
        · intro line hline
          rw [List.mem_singleton.mp hline]
          exact e.not_mem_line time
        · rw [List.flatMap_singleton]
          exact String.toList_append
      · rw [if_neg hpasses]
        exact ⟨[], .hidden (Bool.not_eq_true _ ▸ hpasses), by simp, rfl⟩

/-- Pieces put their lines on standard error one after the other. -/
theorem exists_blocks (hjson : l.json = true) (time : String) {xs : List Emission}
    (hend : ∀ text, .err text ∈ xs → ∃ start, text = start ++ "\n") :
    ∃ blocks : List (List String), List.Forall₂ (Shows l.filter time) xs blocks ∧
      (∀ line ∈ blocks.flatten, '\n' ∉ line.toList) ∧
      (xs.flatMap fun x => (x.onStderr l time).toList) =
        blocks.flatten.flatMap fun line => line.toList ++ ['\n'] := by
  induction xs with
  | nil => exact ⟨[], .nil, by simp, rfl⟩
  | cons x xs ih =>
      have hx : ∀ text, x = .err text → ∃ start, text = start ++ "\n" := by
        intro text htext
        exact hend text (htext ▸ List.mem_cons_self)
      obtain ⟨lines, hshows, hlines, htext⟩ := exists_shows hjson time hx
      obtain ⟨blocks, hblocks, hflat, hrest⟩ :=
        ih fun text htext => hend text (List.mem_cons_of_mem _ htext)
      refine ⟨lines :: blocks, .cons hshows hblocks, ?_, ?_⟩
      · rw [List.flatten_cons]
        exact List.forall_mem_append.mpr ⟨hlines, hflat⟩
      · rw [List.flatMap_cons, List.flatten_cons, List.flatMap_append, htext, hrest]

end Emission

/-- Where log events are shown as JSON, and every text on standard error ends in a line break,
standard error is the lines of the pieces, in order. -/
theorem Outcome.exists_blocks {o : Outcome} (hjson : o.logging.json = true)
    (hend : ∀ text, .err text ∈ o.emissions → ∃ start, text = start ++ "\n") (time : String) :
    ∃ blocks : List (List String),
      List.Forall₂ (Emission.Shows o.logging.filter time) o.emissions blocks ∧
        splitWhere (· = '\n') (o.stderr time).toList =
          blocks.flatten.map String.toList ++ [[]] := by
  obtain ⟨blocks, hblocks, hlines, htext⟩ := Emission.exists_blocks hjson time hend
  refine ⟨blocks, hblocks, ?_⟩
  have hsplit : splitWhere (· = '\n') ((blocks.flatten.map String.toList).flatMap (· ++ ['\n'])) =
      blocks.flatten.map String.toList ++ [[]] := by
    refine Run.splitWhere_lines ?_
    intro line hline c hc hbreak
    obtain ⟨text, htext, rfl⟩ := List.mem_map.mp hline
    exact hlines text htext (hbreak ▸ hc)
  rw [← hsplit, List.flatMap_map, ← htext, Outcome.stderr, String.toList_join, List.flatMap_map]

namespace Run

/-- The event of a result. -/
def resultEvent (r : String × Settlement) : Log.Event :=
  match r.2 with
  | .ok _ => ⟨.info, "fetch_get", "resolved", [("uri", .plain r.1)]⟩
  | .error (.rejected status _) =>
    ⟨.warn, "fetch_get", "rejected", [("uri", .plain r.1), ("status", .number status)]⟩
  | .error e => ⟨.error, "fetch_get", cross ++ e.message, [("uri", .plain r.1)]⟩

/-- A result is reported by its event and by what is written for it. -/
theorem report_eq (pretty : Bool) (r : String × Settlement) :
    report pretty r.1 r.2 = [.log (resultEvent r), writeOf pretty r] := by
  obtain ⟨uri, settlement⟩ := r
  cases settlement with
  | ok payload => rfl
  | error e =>
      cases e with
      | rejected status payload => rfl
      | _ => rfl

/-- An event tells a detail of how a run comes to its results. -/
def IsDetail (e : Log.Event) : Prop := e.level = .debug ∨ e.level = .trace

/-- The events of a GET are for debugging and come from the transport, but for the one that
tells that the response is settled. -/
theorem origin_of_mem_events {uri : String} {x : Exchange} {e : Log.Event}
    (h : e ∈ x.events uri) :
    (e.level = .debug ∧ e.target = Exchange.target) ∨
      (e.level = .trace ∧ e.target = "fetch_get::core::fetcher") := by
  unfold Exchange.events at h
  rcases List.mem_cons.mp h with rfl | h
  · exact .inl ⟨rfl, rfl⟩
  cases harrival : x.arrival with
  | error _ =>
      rw [harrival] at h
      exact absurd h List.not_mem_nil
  | ok a =>
      rw [harrival] at h
      rcases List.mem_append.mp h with h | h
      · split at h
        · exact absurd h List.not_mem_nil
        · rw [List.mem_singleton.mp h]
          exact .inl ⟨rfl, rfl⟩
      · cases hbody : a.body with
        | error _ =>
            rw [hbody] at h
            exact absurd h List.not_mem_nil
        | ok body =>
            rw [hbody] at h
            rcases List.mem_cons.mp h with rfl | h
            · exact .inl ⟨rfl, rfl⟩
            · rw [List.mem_singleton.mp h]
              exact .inr ⟨rfl, rfl⟩

theorem isDetail_of_mem_events {uri : String} {x : Exchange} {e : Log.Event}
    (h : e ∈ x.events uri) : IsDetail e :=
  (origin_of_mem_events h).imp And.left And.left

theorem not_isDetail_resultEvent (r : String × Settlement) : ¬ IsDetail (resultEvent r) := by
  obtain ⟨uri, settlement⟩ := r
  cases settlement with
  | ok payload => simp [IsDetail, resultEvent]
  | error e => cases e <;> simp [IsDetail, resultEvent]

/-- A run that fetches logs its settings and the GETs, and then reports its results, each by an
event and by what is written for it. -/
theorem emissions_finish (s : Settings) (logging : Logging)
    (exchanges : List (String × Exchange)) :
    (finish s logging exchanges).emissions =
      (s.event :: exchanges.flatMap fun x => x.2.events x.1).map Emission.log ++
        (results exchanges).flatMap fun r => [.log (resultEvent r), writeOf s.pretty r] := by
  rw [List.map_cons, List.map_flatMap, ← funext (report_eq s.pretty)]
  rfl

/-- A run that fetches logs details, and then reports its results. -/
theorem exists_details_finish (s : Settings) (logging : Logging)
    (exchanges : List (String × Exchange)) :
    ∃ details : List Log.Event, (∀ e ∈ details, IsDetail e) ∧
      (finish s logging exchanges).emissions = details.map Emission.log ++
        (results exchanges).flatMap fun r => [.log (resultEvent r), writeOf s.pretty r] := by
  refine ⟨s.event :: exchanges.flatMap fun x => x.2.events x.1, ?_, emissions_finish s logging _⟩
  intro e he
  rcases List.mem_cons.mp he with rfl | he
  · exact .inl rfl
  · obtain ⟨x, -, he⟩ := List.mem_flatMap.mp he
    exact isDetail_of_mem_events he

/-- The document of the event of a result tells the URI. -/
theorem at?_uri_resultEvent (time : String) (r : String × Settlement) :
    ((resultEvent r).document time).at? ["fields", "uri"] = some (.text r.1) := by
  obtain ⟨uri, settlement⟩ := r
  have hmem : ("uri", .text uri) ∈ (resultEvent (uri, settlement)).members := by
    cases settlement with
    | ok payload => simp [resultEvent, Log.Event.members, Log.Value.toJson]
    | error e => cases e <;> simp [resultEvent, Log.Event.members, Log.Value.toJson]
  have hnodup : ((resultEvent (uri, settlement)).members.map Prod.fst).Nodup := by
    cases settlement with
    | ok payload => simp [resultEvent, Log.Event.members]
    | error e => cases e <;> simp [resultEvent, Log.Event.members]
  exact Log.Event.at?_document hnodup hmem time

/-- What is written for a result ends in a line break. -/
theorem exists_of_writeOf_eq_err {pretty : Bool} {r : String × Settlement} {text : String}
    (h : writeOf pretty r = .err text) : ∃ start, text = start ++ "\n" := by
  obtain ⟨uri, settlement⟩ := r
  cases settlement with
  | ok payload => exact absurd h (by simp [writeOf, grantedLine?])
  | error e =>
      cases e with
      | rejected status payload => exact ⟨_, (Emission.err.inj h).symm⟩
      | _ => exact ⟨_, (Emission.err.inj h).symm⟩

/-- Whatever a run with resolved settings writes to standard error besides log events ends in a
line break. -/
theorem exists_of_err_mem {world : World} {arguments : List String} {s : Settings}
    (h : Resolves world.files world.env arguments s) {text : String}
    (htext : .err text ∈ (run world arguments).emissions) : ∃ start, text = start ++ "\n" := by
  have hwrites : .err text ∈ (run world arguments).writes := List.mem_filter.mpr ⟨htext, rfl⟩
  rw [run_of_resolves world h] at hwrites
  cases hvalid : s.validate with
  | error e =>
      rw [hvalid] at hwrites
      dsimp only at hwrites
      rw [writes_invalid] at hwrites
      exact ⟨_, Emission.err.inj (List.mem_singleton.mp hwrites)⟩
  | ok u =>
      rw [hvalid] at hwrites
      dsimp only at hwrites
      rw [writes_finish] at hwrites
      obtain ⟨r, -, hr⟩ := List.mem_map.mp hwrites
      exact exists_of_writeOf_eq_err hr

/-- How a run with resolved settings shows its events. -/
theorem logging_run {world : World} {arguments : List String} {s : Settings}
    (h : Resolves world.files world.env arguments s) :
    (run world arguments).logging = loggingOf world.env s := by
  rw [run_of_resolves world h]
  cases s.validate with
  | error e => rfl
  | ok u => rfl

/-- **Nothing that a run is given breaks its log.**  If the settings ask for log events as JSON,
standard error, cut at the line breaks, is the lines of the pieces that the run writes, in order.
An event that passes the filter has exactly one line, and that line is decoded to the document of
the event; any other text begins on a line of its own.  If the URIs can be used, the run logs
details first, and ends with an event for each URI and with what is written for it.  Events of
results are no details, and the document of such an event tells the URI as it was given. -/
theorem stderr_json_lines {world : World} {arguments : List String} {s : Settings}
    (h : Resolves world.files world.env arguments s) (hjson : s.logJson = true) (time : String) :
    (∃ blocks : List (List String),
      List.Forall₂ (Emission.Shows (loggingOf world.env s).filter time)
        (run world arguments).emissions blocks ∧
      splitWhere (· = '\n') ((run world arguments).stderr time).toList =
        blocks.flatten.map String.toList ++ [[]]) ∧
    (s.validate = .ok () → ∃ details : List Log.Event, (∀ e ∈ details, IsDetail e) ∧
      (run world arguments).emissions = details.map .log ++ s.uris.flatMap fun uri =>
        [.log (resultEvent (uri, (world.get uri).settlement)),
          writeOf s.pretty (uri, (world.get uri).settlement)]) ∧
    ∀ r : String × Settlement, ¬ IsDetail (resultEvent r) ∧
      ((resultEvent r).document time).at? ["fields", "uri"] = some (.text r.1) := by
  have hlogging := logging_run h
  refine ⟨?_, ?_, fun r => ⟨not_isDetail_resultEvent r, at?_uri_resultEvent time r⟩⟩
  · rw [← hlogging]
    refine Outcome.exists_blocks ?_ (fun text htext => exists_of_err_mem h htext) time
    rw [hlogging]
    exact hjson
  · intro hvalid
    rw [run_of_resolves world h, hvalid]
    have hdetails := exists_details_finish s (loggingOf world.env s)
      (s.uris.map fun uri => (uri, world.get uri))
    rw [results, List.map_map, List.flatMap_map] at hdetails
    exact hdetails

/-- A URI with a quotation mark, a line break and a control character in it is logged on one
line. -/
theorem stderr_json_lines_escaped :
    Resolves (serving "1").files (serving "1").env ["--log-json", "http://ä/\"\n\x01"]
      ⟨["http://ä/\"\n\x01"], none, false, true, false⟩ ∧
    (run (serving "1") ["--log-json", "http://ä/\"\n\x01"]).stderr "T" =
      "\x7b\"timestamp\":\"T\",\"level\":\"INFO\",\"fields\":\x7b\"message\":\"resolved\"," ++
        "\"uri\":\"http://ä/\\\"\\n\\u0001\"\x7d\x7d\n" ∧
    ∃ blocks : List (List String),
      List.Forall₂ (Emission.Shows (loggingOf (serving "1").env
          ⟨["http://ä/\"\n\x01"], none, false, true, false⟩).filter "T")
        (run (serving "1") ["--log-json", "http://ä/\"\n\x01"]).emissions blocks ∧
      splitWhere (· = '\n') ((run (serving "1")
          ["--log-json", "http://ä/\"\n\x01"]).stderr "T").toList =
        blocks.flatten.map String.toList ++ [[]] := by
  have h : Resolves (serving "1").files (serving "1").env ["--log-json", "http://ä/\"\n\x01"]
      ⟨["http://ä/\"\n\x01"], none, false, true, false⟩ := ⟨_, rfl, rfl⟩
  exact ⟨h, by decide +kernel, (stderr_json_lines h rfl "T").1⟩

end Run
end HttpGet
