/-
What a session shows.

The steps that a session has taken tell its state: which URI was given which route last, how
often the routes were asked for, and what its batches have come to.  One step keeps this so,
for the steps with that one more, and hence any number of steps does.  So each step of a
session is shown as the steps before it alone say.

Routes are only ever changed for one URI.  What a request brings is therefore what the last
step that has changed the route of its URI has made of it; every other step could be left out.
-/
import HttpGet.Proofs.Batches

namespace HttpGet.Session

/-! ### What the steps say -/

namespace Step

/-- The URI whose route a step changes, and what a request for it brings from then on. -/
def change? : Step → Option (String × Except GetError Response)
  | route uri response => some (uri, .ok response)
  | fail uri error => some (uri, .error error)
  | unroute uri => some (uri, RouteTable.unreachable uri)
  | _ => none

/-- The URI that a step GETs. -/
def get? : Step → Option String
  | get uri => some uri
  | _ => none

/-- The URIs that a step GETs as a batch. -/
def batch? : Step → Option (List String)
  | batch uris => some uris
  | _ => none

end Step

/-- What a request for a URI brings after steps: what the last step that has changed its route
says.  At first there is no route. -/
def answerAfter (steps : List Step) (uri : String) : Except GetError Response :=
  ((steps.filterMap Step.change?).reverse.lookup uri).getD (RouteTable.unreachable uri)

/-- How many requests steps make: one for each GET, and one for each URI of each batch. -/
def asked (steps : List Step) : Nat :=
  (steps.filterMap Step.get?).length + (steps.filterMap Step.batch?).flatten.length

/-- The results of a batch that is shown. -/
def Outcome.batch? : Outcome → Option Batch
  | batch results => some results
  | _ => none

/-- The batches that are shown. -/
def batches (shown : List (Outcome × Nat)) : List Batch := shown.filterMap (·.1.batch?)

theorem answerAfter_append_change {steps : List Step} {step : Step} {uri : String}
    {answer : Except GetError Response} (h : step.change? = some (uri, answer)) (other : String) :
    answerAfter (steps ++ [step]) other =
      if other = uri then answer else answerAfter steps other := by
  have hsteps : ((steps ++ [step]).filterMap Step.change?).reverse =
      (uri, answer) :: (steps.filterMap Step.change?).reverse := by
    rw [List.filterMap_append, List.filterMap_cons_some h, List.filterMap_nil,
      List.reverse_append, List.reverse_singleton, List.singleton_append]
  rw [answerAfter, hsteps, lookup_cons_eq]
  by_cases huri : other = uri
  · rw [if_pos huri, if_pos huri, Option.getD_some]
  · rw [if_neg huri, if_neg huri, answerAfter]

theorem answerAfter_append_other {steps : List Step} {step : Step} (h : step.change? = none) :
    answerAfter (steps ++ [step]) = answerAfter steps := by
  funext uri
  rw [answerAfter, List.filterMap_append, List.filterMap_cons_none h, List.filterMap_nil,
    List.append_nil, answerAfter]

theorem asked_append (before after : List Step) :
    asked (before ++ after) = asked before + asked after := by
  simp only [asked, List.filterMap_append, List.flatten_append, List.length_append]
  omega

/-! ### Steps and runs -/

/-- The session that steps lead to. -/
def after (s : Session) (steps : List Step) : Session :=
  steps.foldl (fun s step => (s.step step).2) s

/-- A session is one that has taken steps: its routes answer as they say, and have been asked
for as often. -/
structure Follows (s : Session) (steps : List Step) : Prop where
  answer : s.table.answer = answerAfter steps
  calls : s.table.calls = asked steps

theorem follows_start : (default : Session).Follows [] where
  answer := rfl
  calls := rfl

/-- Changing a route keeps a session in step. -/
theorem Follows.change {s : Session} {steps : List Step} (h : s.Follows steps) {step : Step}
    {uri : String} {answer : Except GetError Response} {table : RouteTable}
    (hchange : step.change? = some (uri, answer)) (hasked : asked [step] = 0)
    (hanswer : ∀ other, table.answer other = if other = uri then answer else s.table.answer other)
    (hcalls : table.calls = s.table.calls) :
    Follows { s with table } (steps ++ [step]) where
  answer := by
    funext other
    rw [answerAfter_append_change hchange, ← h.answer]
    exact hanswer other
  calls := by
    rw [asked_append, hasked, ← h.calls]
    exact hcalls

/-- Asking for routes keeps a session in step. -/
theorem Follows.ask {s : Session} {steps : List Step} (h : s.Follows steps) {step : Step}
    {n : Nat} {results : Batch} (hchange : step.change? = none) (hasked : asked [step] = n) :
    Follows ⟨{ s.table with calls := s.table.calls + n }, results⟩ (steps ++ [step]) where
  answer := by
    rw [answerAfter_append_other hchange]
    exact h.answer
  calls := by
    rw [asked_append, hasked, ← h.calls]

/-- A step takes a session that has taken steps to one that has taken this one too. -/
theorem Follows.step {s : Session} {steps : List Step} (h : s.Follows steps) (step : Step) :
    (s.step step).2.Follows (steps ++ [step]) := by
  cases step with
  | route uri response =>
      exact h.change rfl rfl (fun other => s.table.answer_set uri other _) rfl
  | fail uri error =>
      exact h.change rfl rfl (fun other => s.table.answer_set uri other _) rfl
  | unroute uri =>
      exact h.change rfl rfl (fun other => s.table.answer_erase uri other) rfl
  | get uri =>
      rw [Session.step, RouteTable.fetch_transport]
      exact h.ask rfl rfl
  | batch uris =>
      rw [Session.step, RouteTable.fetchAll_transport]
      exact h.ask rfl (by simp [asked, Step.get?, Step.batch?])
  | total => exact h.ask (n := 0) rfl rfl

/-- Any number of steps does. -/
theorem Follows.after {s : Session} {before : List Step} (h : s.Follows before)
    (steps : List Step) : (s.after steps).Follows (before ++ steps) := by
  induction steps generalizing s before with
  | nil => rwa [List.append_nil]
  | cons step steps ih =>
      rw [List.append_cons]
      exact ih (h.step step)

theorem follows_after (steps : List Step) : ((default : Session).after steps).Follows steps :=
  follows_start.after steps

theorem run_cons (s : Session) (step : Step) (later : List Step) :
    s.run (step :: later) =
      ((s.step step).1, (s.step step).2.table.calls) :: (s.step step).2.run later := rfl

/-- What a run of steps shows first does not depend on the steps that come later. -/
theorem run_append (s : Session) (before later : List Step) :
    s.run (before ++ later) = s.run before ++ (s.after before).run later := by
  induction before generalizing s with
  | nil => rfl
  | cons step before ih =>
      rw [List.cons_append, run_cons, ih]
      rfl

theorem length_run (s : Session) (steps : List Step) : (s.run steps).length = steps.length := by
  induction steps generalizing s with
  | nil => rfl
  | cons step steps ih => rw [run_cons, List.length_cons, List.length_cons, ih]

/-- What a run shows for a step. -/
theorem getElem?_run (s : Session) (before later : List Step) (step : Step) :
    (s.run (before ++ step :: later))[before.length]? =
      some (((s.after before).step step).1, ((s.after before).step step).2.table.calls) := by
  rw [run_append, List.getElem?_append_right (Nat.le_of_eq (length_run s before)), length_run,
    Nat.sub_self]
  rfl

theorem take_run (s : Session) (before later : List Step) :
    (s.run (before ++ later)).take before.length = s.run before := by
  rw [run_append, List.take_left' (length_run s before)]

/-- A session keeps the results of its batches. -/
theorem results_after (s : Session) (steps : List Step) :
    (s.after steps).results = s.results ++ (batches (s.run steps)).flatten := by
  induction steps generalizing s with
  | nil => exact (List.append_nil _).symm
  | cons step steps ih =>
      have hafter : s.after (step :: steps) = (s.step step).2.after steps := rfl
      rw [hafter, ih, run_cons, batches, batches]
      cases step with
      | batch uris =>
          rw [List.filterMap_cons_some (by rfl), List.flatten_cons, ← List.append_assoc]
          rfl
      | _ =>
          rw [List.filterMap_cons_none (by rfl)]
          rfl

/-! ### What is asked and what comes of it -/

/-- **A batch calls its transport once for each URI, in order and whatever the calls come to,
each in the state that the one before has left; its results are the URIs with what was answered
to them, settled.  So two lists are a batch of the first and then one of the second.  In a
session the routes are asked for once by each GET and once for each URI of each batch, and what
comes of a URI is what the last step that has changed its route has made of it.** -/
theorem batch_calls_each_once {σ : Type} (t : Transport σ GetError) (s : σ) (us vs : List String)
    (before later : List Step) :
    (t.Serves s (t.calls s us) (t.fetchAll s us).2 ∧ (t.calls s us).map Call.uri = us ∧
      (t.fetchAll s us).1 = (t.calls s us).map Call.result ∧
      t.recorded.fetchAll (s, []) us =
        ((t.fetchAll s us).1, (t.fetchAll s us).2, t.calls s us)) ∧
    t.fetchAll s (us ++ vs) =
      ((t.fetchAll s us).1 ++ (t.fetchAll (t.fetchAll s us).2 vs).1,
        (t.fetchAll (t.fetchAll s us).2 vs).2) ∧
    (∀ step, ((default : Session).run (before ++ step :: later))[before.length]?.map Prod.snd =
      some (asked (before ++ [step]))) ∧
    (∀ uri, ((default : Session).run (before ++ .get uri :: later))[before.length]? =
      some (.settled (Settlement.ofAnswer (answerAfter before uri)), asked before + 1)) ∧
    ∀ uris, ((default : Session).run (before ++ .batch uris :: later))[before.length]? =
      some (.batch (uris.map fun uri => (uri, Settlement.ofAnswer (answerAfter before uri))),
        asked before + uris.length) := by
  have hbefore := follows_after before
  refine ⟨t.calls_spec s us, t.fetchAll_append s us vs, ?_, ?_, ?_⟩
  · intro step
    rw [getElem?_run, Option.map_some, (hbefore.step step).calls]
  · intro uri
    rw [getElem?_run, Session.step, RouteTable.fetch_transport, ← hbefore.answer, ← hbefore.calls]
  · intro uris
    rw [getElem?_run, Session.step, RouteTable.fetchAll_transport, ← hbefore.answer,
      ← hbefore.calls]

end Session
end HttpGet
