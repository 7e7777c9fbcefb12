/-
How payloads are presented.

A run prints each payload with a line break after it, in the pretty or in the compact form.  The
pretty form adds layout and nothing else, so what two runs write that differ in the form differs
in layout only.  The compact form has no line break of its own, so the line breaks on standard
output show where a payload ends: as long as all payloads are JSON, cutting the output there gives
them back one by one.
-/
import HttpGet.Proofs.Json.Legibility
import HttpGet.Proofs.Json.Tightening
import HttpGet.Proofs.Reporting
import HttpGet.Proofs.Url.Cutting

namespace HttpGet

/-! ### Layout -/

/-- A text without the spaces and the line breaks outside of its string literals. -/
def withoutLayout (s : String) : String := String.ofList (Json.tighten .outside s.toList)

theorem withoutLayout_pretty (v : Json) :
    withoutLayout (Payload.json v).pretty = (Payload.json v).compact := by
  rw [withoutLayout, Payload.pretty, Payload.compact, Json.toPrettyString, Json.toCompactString,
    String.toList_ofList, Json.tighten_pretty]

/-- Two pieces of what runs write differ in layout only: they are equal, or each is the same
status, if any, with a payload after it, and without layout the first payload is the second. -/
inductive SameUpToLayout : Emission → Emission → Prop
  | same (e : Emission) : SameUpToLayout e e
  | out {pretty compact : String} (h : withoutLayout pretty = compact) :
      SameUpToLayout (.out (pretty ++ "\n")) (.out (compact ++ "\n"))
  | err (status : Nat) {pretty compact : String} (h : withoutLayout pretty = compact) :
      SameUpToLayout (.err (toString status ++ " " ++ pretty ++ "\n"))
        (.err (toString status ++ " " ++ compact ++ "\n"))

namespace Run

/-- What is written for a result in the two forms differs in layout only. -/
theorem sameUpToLayout_writeOf (r : String × Settlement) :
    SameUpToLayout (writeOf true r) (writeOf false r) := by
  obtain ⟨uri, settlement⟩ := r
  cases settlement with
  | ok payload =>
      cases payload with
      | json v => exact .out (withoutLayout_pretty v)
      | text s => exact .same _
  | error e =>
      cases e with
      | rejected status payload =>
          cases payload with
          | json v => exact .err status (withoutLayout_pretty v)
          | text s => exact .same _
      | _ => exact .same _

/-- A world without files and variables in which every GET brings this body as JSON. -/
def serving (body : String) : World where
  files _ := .error .missing
  env _ := none
  get uri := ⟨["GET " ++ uri], .ok ⟨⟨"http".toList, none, .plain [], none, none⟩, 200,
    some Payload.jsonMediaType, .ok body⟩⟩

/-- **The pretty form changes the layout of what is printed and nothing else.**  Without layout
the pretty text of a JSON payload is its compact text, and a text has one form only.  So two runs
that fetch the same URIs, one of which prints in the pretty form, write the same up to layout, and
ask for the same and end in the same way. -/
theorem pretty_adds_layout :
    (∀ v : Json, withoutLayout (Payload.json v).pretty = (Payload.json v).compact) ∧
    (∀ s : String, (Payload.text s).pretty = (Payload.text s).compact) ∧
    ∀ {get : String → Exchange} {files files' : FileReader} {env env' : Environment}
      {arguments arguments' : List String} {s s' : Settings},
      Resolves files env arguments s → Resolves files' env' arguments' s' → s.uris = s'.uris →
      s.pretty = true → s'.pretty = false →
      List.Forall₂ SameUpToLayout (run ⟨files, env, get⟩ arguments).writes
        (run ⟨files', env', get⟩ arguments').writes ∧
      (run ⟨files, env, get⟩ arguments).requests = (run ⟨files', env', get⟩ arguments').requests ∧
      (run ⟨files, env, get⟩ arguments).exitCode = (run ⟨files', env', get⟩ arguments').exitCode := by
  refine ⟨withoutLayout_pretty, fun _ => rfl, ?_⟩
  intro get files files' env env' arguments arguments' s s' h h' huris hpretty hcompact
  rw [run_of_resolves ⟨files, env, get⟩ h, run_of_resolves ⟨files', env', get⟩ h',
    Settings.validate_congr huris]
  cases s'.validate with
  | error e =>
      refine ⟨?_, rfl, rfl⟩
      rw [writes_invalid, writes_invalid]
      exact .cons (.same _) .nil
  | ok u =>
      dsimp only
      rw [huris, writes_finish, writes_finish, hpretty, hcompact, List.forall₂_map_left_iff,
        List.forall₂_map_right_iff]
      exact ⟨List.forall₂_same.mpr fun r _ => sameUpToLayout_writeOf r, rfl, rfl⟩

/-- A list with a line break in a string, printed in both forms. -/
theorem pretty_adds_layout_escaped :
    Resolves (serving "").files (serving "").env ["http://a/x", "--pretty"]
      ⟨["http://a/x"], none, true, false, false⟩ ∧
    Resolves (serving "").files (serving "").env ["http://a/x"]
      ⟨["http://a/x"], none, false, false, false⟩ ∧
    (run (serving "[\"a\\nb\", 1]") ["http://a/x", "--pretty"]).writes =
      [.out "[\n  \"a\\nb\",\n  1\n]\n"] ∧
    List.Forall₂ SameUpToLayout
      (run (serving "[\"a\\nb\", 1]") ["http://a/x", "--pretty"]).writes
      (run (serving "[\"a\\nb\", 1]") ["http://a/x"]).writes := by
  have h : Resolves (serving "").files (serving "").env ["http://a/x", "--pretty"]
      ⟨["http://a/x"], none, true, false, false⟩ := ⟨_, rfl, rfl⟩
  have h' : Resolves (serving "").files (serving "").env ["http://a/x"]
      ⟨["http://a/x"], none, false, false, false⟩ := ⟨_, rfl, rfl⟩
  exact ⟨h, h', by with_unfolding_all rfl, (pretty_adds_layout.2.2 h h' rfl rfl rfl).1⟩

/-! ### Lines -/

/-- The URIs that a run fetches: those of its settings, if it comes to any that are valid. -/
def fetched (world : World) (arguments : List String) : List String :=
  match plan world.files world.env arguments with
  | .finished _ => []
  | .fetch s _ => s.uris

/-- The URIs whose GETs are granted in a run, with their payloads, in order. -/
def granted (world : World) (arguments : List String) : List (String × Payload) :=
  (fetched world arguments).filterMap fun uri =>
    match (world.get uri).settlement with
    | .ok payload => some (uri, payload)
    | .error _ => none

/-- A run that prints payloads in the compact form: it is not one that prints the help text
instead, and the settings that it comes to, if any, do not ask for the pretty form. -/
structure PrintsCompact (world : World) (arguments : List String) : Prop where
  noHelp : CommandLine.parse arguments ≠ .error .help
  notPretty : ∀ s, Resolves world.files world.env arguments s → s.pretty = false

/-- A line shows a payload: it is its compact text, it is decoded as JSON wherever JSON is
announced, and to the same value unless there is a floating point number in it. -/
structure LineOf (r : String × Payload) (line : String) : Prop where
  text : line = r.2.compact
  decodes : ∃ v, ∀ left right, Payload.decode (Payload.announcing left right) line = .ok (.json v)
  same : ∀ v, r.2 = .json v → Json.RealFree v → ∀ left right,
    Payload.decode (Payload.announcing left right) line = .ok (.json v)

/-- Without help a run fetches nothing and prints nothing, or it reports what it has fetched. -/
theorem run_fetched (world : World) {arguments : List String}
    (hhelp : CommandLine.parse arguments ≠ .error .help) :
    (fetched world arguments = [] ∧ (run world arguments).stdout = "") ∨
      ∃ s logging, Resolves world.files world.env arguments s ∧ fetched world arguments = s.uris ∧
        run world arguments = finish s logging (s.uris.map fun uri => (uri, world.get uri)) := by
  rw [fetched, run]
  cases hparse : CommandLine.parse arguments with
  | error failure =>
      cases failure with
      | help => exact absurd hparse hhelp
      | _ =>
          rw [plan, hparse]
          exact .inl ⟨rfl, rfl⟩
  | ok given =>
      cases hresolve : given.resolve world.files world.env with
      | error e =>
          simp only [plan, hparse, hresolve]
          exact .inl ⟨trivial, rfl⟩
      | ok s =>
          cases hvalid : s.validate with
          | error e =>
              simp only [plan, hparse, hresolve, hvalid]
              exact .inl ⟨trivial, rfl⟩
          | ok u =>
              simp only [plan, hparse, hresolve, hvalid]
              exact .inr ⟨s, _, ⟨given, hparse, hresolve⟩, rfl, rfl⟩

/-- What a run prints: the granted payloads in the compact form, each with a line break. -/
theorem stdout_of_printsCompact {world : World} {arguments : List String}
    (h : PrintsCompact world arguments) : (run world arguments).stdout =
      String.join ((granted world arguments).map fun r => r.2.compact ++ "\n") := by
  obtain ⟨hfetched, hstdout⟩ | ⟨s, logging, hs, hfetched, hrun⟩ := run_fetched world h.noHelp
  · rw [hstdout, granted, hfetched]
    rfl
  · rw [hrun, Outcome.stdout_eq_writes, writes_finish, stdout_writeOf, granted, hfetched,
      h.notPretty s hs, results, List.map_map, List.filterMap_map, List.map_filterMap]
    congr 1
    refine List.filterMap_congr fun uri _ => ?_
    rw [Function.comp_apply, Function.comp_apply, grantedLine?]
    cases (world.get uri).settlement with
    | ok payload => rfl
    | error e => rfl

/-- Lines are found again by the line breaks after them. -/
theorem splitWhere_lines {lines : List (List Char)} (h : ∀ line ∈ lines, ∀ c ∈ line, c ≠ '\n') :
    splitWhere (· = '\n') (lines.flatMap (· ++ ['\n'])) = lines ++ [[]] := by
  induction lines with
  | nil => rfl
  | cons line lines ih =>
      obtain ⟨hline, hlines⟩ := List.forall_mem_cons.mp h
      rw [List.flatMap_cons, List.append_assoc, List.singleton_append,
        splitWhere_append_cons (fun c hc => decide_eq_false (hline c hc)) (decide_eq_true rfl),
        ih hlines, List.cons_append]

/-- A payload that is JSON has been spelled by a body. -/
theorem exists_spells_of_settlement {e : Exchange} {v : Json}
    (h : e.settlement = .ok (.json v)) : ∃ body, Json.Spells body v := by
  rw [Exchange.settlement] at h
  split at h
  · rename_i response _
    rw [Response.settle] at h
    split at h
    · simp at h
    · rename_i payload hdecode
      split at h
      · obtain rfl := Except.ok.inj h
        by_cases hjson : Payload.isJsonContent response.contentType = true
        · exact ⟨response.body, (decode_eq_json_iff hjson).mp hdecode⟩
        · rw [Payload.decode, if_neg hjson] at hdecode
          exact absurd hdecode (by simp)
      · simp at h
  · simp at h

/-- The compact text of a JSON payload that is granted is a line that shows it. -/
theorem lineOf_compact {world : World} {arguments : List String} {r : String × Payload} {v : Json}
    (hr : r ∈ granted world arguments) (hv : r.2 = .json v) : LineOf r r.2.compact := by
  obtain ⟨body, hbody⟩ : ∃ body, Json.Spells body v := by
    obtain ⟨uri, -, huri⟩ := List.mem_filterMap.mp hr
    split at huri
    · rename_i payload hpayload
      obtain rfl := Option.some.inj huri
      obtain rfl : payload = .json v := hv
      exact exists_spells_of_settlement hpayload
    · simp at huri
  have hjson : ∀ left right, Payload.isJsonContent (Payload.announcing left right) = true :=
    isJsonContent_append
  obtain ⟨v', hv'⟩ := (Json.legible_compact hbody.given).exists_parse
  rw [hv]
  refine ⟨by rw [hv], ⟨v', fun left right => ?_⟩, ?_⟩
  · rw [decode_of_isJsonContent _ (hjson left right)]
    exact congrArg (Except.map Payload.json) hv'
  · intro w hw hfree left right
    obtain rfl := Payload.json.inj (hv.symm.trans hw)
    exact (decode_eq_json_iff (hjson left right)).mpr
      (Json.written_compact (hbody.fits hfree)).spells

/-- **Every JSON payload is one line.**  No control character stands in the compact text of a
value.  So if a run prints in the compact form and all payloads that it prints are JSON, its
standard output, cut at the line breaks, has exactly one line for each URI that is granted, in
their order, and each line shows the payload. -/
theorem stdout_line_per_payload :
    (∀ v : Json, ∀ c ∈ (Payload.json v).compact.toList, 0x20 ≤ c.toNat) ∧
    ∀ {world : World} {arguments : List String}, PrintsCompact world arguments →
      (∀ r ∈ granted world arguments, ∃ v, r.2 = .json v) →
      ∃ lines : List String,
        splitWhere (· = '\n') (run world arguments).stdout.toList =
          lines.map String.toList ++ [[]] ∧
        List.Forall₂ LineOf (granted world arguments) lines := by
  have hcontrol : ∀ v : Json, ∀ c ∈ (Payload.json v).compact.toList, 0x20 ≤ c.toNat := by
    intro v
    rw [Payload.compact, Json.toCompactString, String.toList_ofList]
    exact Json.le_toNat_of_mem_compact v
  refine ⟨hcontrol, ?_⟩
  intro world arguments h hjson
  refine ⟨(granted world arguments).map fun r => r.2.compact, ?_, ?_⟩
  · have hlines : ∀ line ∈ (granted world arguments).map fun r => r.2.compact.toList,
        ∀ c ∈ line, c ≠ '\n' := by
      refine List.forall_mem_map.mpr fun r hr c hc => ?_
      obtain ⟨v, hv⟩ := hjson r hr
      rw [hv] at hc
      rintro rfl
      exact absurd (hcontrol v _ hc) (by decide)
    have hbreak : "\n".toList = ['\n'] := rfl
    have hsplit := splitWhere_lines hlines
    rw [List.flatMap_map] at hsplit
    rw [stdout_of_printsCompact h, String.toList_join, List.map_map, List.flatMap_map]
    simp only [String.toList_append, hbreak]
    exact hsplit
  · rw [List.forall₂_map_right_iff]
    refine List.forall₂_same.mpr fun r hr => ?_
    obtain ⟨v, hv⟩ := hjson r hr
    exact lineOf_compact hr hv

/-- Two payloads with a line break in a string are two lines. -/
theorem stdout_line_per_payload_escaped :
    PrintsCompact (serving "[\"a\\nb\", 1]") ["http://a/x", "http://a/y"] ∧
    granted (serving "[\"a\\nb\", 1]") ["http://a/x", "http://a/y"] =
      [("http://a/x", .json (.array [.text "a\nb", .number (.integer ⟨1, by decide, by decide⟩)])),
        ("http://a/y", .json (.array [.text "a\nb", .number (.integer ⟨1, by decide, by decide⟩)]))] ∧
    ∃ lines : List String,
      splitWhere (· = '\n') (run (serving "[\"a\\nb\", 1]")
        ["http://a/x", "http://a/y"]).stdout.toList = lines.map String.toList ++ [[]] ∧
      List.Forall₂ LineOf (granted (serving "[\"a\\nb\", 1]") ["http://a/x", "http://a/y"])
        lines := by
  have hparse : CommandLine.parse ["http://a/x", "http://a/y"] =
      .ok ⟨["http://a/x", "http://a/y"], none, false, false, false⟩ := rfl
  have hcompact : PrintsCompact (serving "[\"a\\nb\", 1]") ["http://a/x", "http://a/y"] := by
    refine ⟨by rw [hparse]; simp, ?_⟩
    rintro s ⟨given, hgiven, hresolve⟩
    obtain rfl := Except.ok.inj (hparse.symm.trans hgiven)
    rw [← Except.ok.inj hresolve]
    rfl
  have hgranted : granted (serving "[\"a\\nb\", 1]") ["http://a/x", "http://a/y"] =
      [("http://a/x", .json (.array [.text "a\nb", .number (.integer ⟨1, by decide, by decide⟩)])),
        ("http://a/y", .json (.array [.text "a\nb", .number (.integer ⟨1, by decide, by decide⟩)]))] := by
    with_unfolding_all rfl
  refine ⟨hcompact, hgranted, stdout_line_per_payload.2 hcompact fun r hr => ?_⟩
  rw [hgranted] at hr
  rcases List.mem_cons.mp hr with rfl | hr
  · exact ⟨_, rfl⟩
  · obtain rfl := List.mem_singleton.mp hr
    exact ⟨_, rfl⟩

end Run
end HttpGet
