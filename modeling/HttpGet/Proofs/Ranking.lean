/-
How the exit code ranks what has gone wrong.

The exit code of a batch is the highest of its results, so a bound on it is a bound on each of
them: it is above a number exactly if the code of some result is.  A call can go wrong in three
ways, and the code of each is above those of the ways after it: a body that is announced as JSON
and spells no value, whatever the status; no response at all; and a status that does not grant
the request.

Because only the highest counts, the order of results does not, and the codes of parts decide
the code of the whole; so what a session tells of all its batches can be read off the batches
that it has shown.
-/
import HttpGet.Proofs.Decoding
import HttpGet.Proofs.Sessions

namespace HttpGet

/-! ### What can go wrong with a call -/

/-- A response is malformed if it is announced as JSON and its body spells no value. -/
def Response.IsMalformed (r : Response) : Prop :=
  (∃ left right, r.contentType = some (left ++ Payload.jsonMediaType ++ right)) ∧
    ¬ ∃ v, Json.Spells r.body v

namespace Call

/-- The response is malformed. -/
def Malformed (c : Call) : Prop := ∃ r, c.answer = .ok r ∧ r.IsMalformed

/-- There is no response. -/
def Failed (c : Call) : Prop := ∃ e, c.answer = .error e

/-- The status of the response does not grant the request. -/
def Denied (c : Call) : Prop := ∃ r, c.answer = .ok r ∧ ¬ (200 ≤ r.status ∧ r.status ≤ 299)

@[simp] theorem malformed_ok {uri : String} {r : Response} :
    (⟨uri, .ok r⟩ : Call).Malformed ↔ r.IsMalformed := by simp [Malformed]

@[simp] theorem not_malformed_error {uri : String} {e : GetError} :
    ¬ (⟨uri, .error e⟩ : Call).Malformed := by simp [Malformed]

@[simp] theorem not_failed_ok {uri : String} {r : Response} :
    ¬ (⟨uri, .ok r⟩ : Call).Failed := by simp [Failed]

@[simp] theorem failed_error {uri : String} {e : GetError} :
    (⟨uri, .error e⟩ : Call).Failed := ⟨e, rfl⟩

@[simp] theorem denied_ok {uri : String} {r : Response} :
    (⟨uri, .ok r⟩ : Call).Denied ↔ ¬ (200 ≤ r.status ∧ r.status ≤ 299) := by
  constructor
  · rintro ⟨r', h, hdenied⟩
    rwa [Except.ok.inj h]
  · intro h
    exact ⟨r, rfl, h⟩

end Call

/-- A transport that leaves it to settling to reject a response and to decode its body. -/
def Transport.IsPlain {σ : Type} (t : Transport σ GetError) : Prop :=
  ∀ s uri e, (t.get s uri).1 = .error e →
    (∀ status payload, e ≠ .rejected status payload) ∧ ∀ error, e ≠ .undecodable error

/-- A body cannot be decoded exactly if the response is malformed. -/
theorem decode_eq_error_iff {r : Response} :
    (∃ e, Payload.decode r.contentType r.body = .error e) ↔ r.IsMalformed := by
  rw [Response.IsMalformed, ← isJsonContent_iff]
  by_cases hjson : Payload.isJsonContent r.contentType = true
  · simp only [hjson, true_and, decode_of_isJsonContent r.body hjson, ← Json.parse_eq_ok_iff]
    cases Json.parse r.body with
    | error e => simp [Except.map]
    | ok v => simp [Except.map]
  · simp [Payload.decode, hjson]

namespace Batch

/-! ### The codes of results -/

theorem codeOf_settle_of_isMalformed {r : Response} (h : r.IsMalformed) : codeOf r.settle = 3 := by
  obtain ⟨e, he⟩ := decode_eq_error_iff.mpr h
  rw [Response.settle, he]
  rfl

theorem codeOf_settle {r : Response} (h : ¬ r.IsMalformed) :
    codeOf r.settle = if 200 ≤ r.status ∧ r.status ≤ 299 then 0 else 1 := by
  cases hdecode : Payload.decode r.contentType r.body with
  | error e => exact absurd (decode_eq_error_iff.mp ⟨e, hdecode⟩) h
  | ok payload =>
      simp only [Response.settle, hdecode, ← Response.isSuccess_iff]
      by_cases hgranted : r.isSuccess = true
      · rw [if_pos hgranted, if_pos hgranted]
        rfl
      · rw [if_neg hgranted, if_neg hgranted]
        rfl

theorem codeOf_le_three (s : Settlement) : codeOf s ≤ 3 := by
  cases s with
  | ok payload => exact Nat.zero_le 3
  | error e => cases e <;> simp [codeOf, GetError.exitCode]

end Batch

/-- The ways in which a call can go wrong, in the order of their codes. -/
theorem Call.lt_codeOf_iff {c : Call} (h : ∀ e, c.answer = .error e → e.exitCode = 2) :
    (2 < Batch.codeOf c.result.2 ↔ c.Malformed) ∧
    (1 < Batch.codeOf c.result.2 ↔ c.Malformed ∨ c.Failed) ∧
    (0 < Batch.codeOf c.result.2 ↔ c.Malformed ∨ c.Failed ∨ c.Denied) := by
  obtain ⟨uri, answer⟩ := c
  cases answer with
  | error e =>
      have hcode : Batch.codeOf (Call.mk uri (.error e)).result.2 = 2 := h e rfl
      rw [hcode]
      simp
  | ok r =>
      have hresult : (Call.mk uri (.ok r)).result.2 = r.settle := rfl
      rw [hresult, malformed_ok, denied_ok]
      by_cases hmalformed : r.IsMalformed
      · rw [Batch.codeOf_settle_of_isMalformed hmalformed]
        simp [hmalformed]
      · rw [Batch.codeOf_settle hmalformed]
        by_cases hgranted : 200 ≤ r.status ∧ r.status ≤ 299
        · rw [if_pos hgranted]
          simp [hmalformed, hgranted]
        · rw [if_neg hgranted]
          simp only [hmalformed, hgranted, not_failed_ok, false_or, not_false_eq_true]
          decide

/-- What is answered to a call is an answer of the transport. -/
theorem Transport.Serves.exists_get {σ : Type} {t : Transport σ GetError} {s last : σ}
    {calls : List Call} (h : t.Serves s calls last) {c : Call} (hc : c ∈ calls) :
    ∃ s, (t.get s c.uri).1 = c.answer := by
  induction h with
  | nil s => simp at hc
  | @cons s s' last uri answer calls call rest ih =>
      rcases List.mem_cons.mp hc with rfl | hc
      · exact ⟨s, by rw [call]⟩
      · exact ih hc

namespace Batch

/-! ### The code of a batch -/

/-- The exit code of a batch is above a number exactly if that of some result is. -/
theorem lt_exitCode_iff {n : Nat} {b : Batch} : n < b.exitCode ↔ ∃ r ∈ b, n < codeOf r.2 := by
  induction b with
  | nil => simp
  | cons r b ih => rw [exitCode_cons, lt_max_iff, ih, List.exists_mem_cons_iff]

theorem exitCode_le_three (b : Batch) : b.exitCode ≤ 3 := by
  by_contra h
  obtain ⟨r, -, hr⟩ := lt_exitCode_iff.mp (Nat.lt_of_not_le h)
  exact absurd hr (Nat.not_lt.mpr (codeOf_le_three r.2))

/-- Only which results there are counts, and not their order. -/
theorem exitCode_of_mem_iff {a b : Batch} (h : ∀ r, r ∈ a ↔ r ∈ b) : a.exitCode = b.exitCode := by
  refine eq_of_forall_lt_iff fun n => ?_
  rw [lt_exitCode_iff, lt_exitCode_iff]
  simp only [h]

theorem exitCode_flatten (bs : List Batch) :
    exitCode bs.flatten = ((bs.map exitCode).max?).getD 0 := by
  induction bs with
  | nil => rfl
  | cons b bs ih =>
      rw [List.flatten_cons, exitCode_append, ih, List.map_cons, List.max?_cons]
      cases (bs.map exitCode).max? with
      | none => exact Nat.max_zero _
      | some n => rfl

/-- Some call of a batch goes wrong in one way or another exactly if the exit code of the batch
is high enough. -/
theorem lt_exitCode_fetchAll_iff {σ : Type} {t : Transport σ GetError} (h : t.IsPlain) (s : σ)
    (us : List String) :
    (2 < exitCode (t.fetchAll s us).1 ↔ ∃ c ∈ t.calls s us, c.Malformed) ∧
    (1 < exitCode (t.fetchAll s us).1 ↔
      (∃ c ∈ t.calls s us, c.Malformed) ∨ ∃ c ∈ t.calls s us, c.Failed) ∧
    (0 < exitCode (t.fetchAll s us).1 ↔
      (∃ c ∈ t.calls s us, c.Malformed) ∨ (∃ c ∈ t.calls s us, c.Failed) ∨
        ∃ c ∈ t.calls s us, c.Denied) := by
  obtain ⟨hserves, -, hresults, -⟩ := t.calls_spec s us
  have hcode : ∀ c ∈ t.calls s us, ∀ e, c.answer = .error e → e.exitCode = 2 := by
    intro c hc e he
    obtain ⟨s', hs'⟩ := hserves.exists_get hc
    obtain ⟨hrejected, hundecodable⟩ := h s' c.uri e (hs'.trans he)
    cases e with
    | rejected status payload => exact absurd rfl (hrejected status payload)
    | undecodable error => exact absurd rfl (hundecodable error)
    | _ => rfl
  have hlt : ∀ n, n < exitCode (t.fetchAll s us).1 ↔
      ∃ c ∈ t.calls s us, n < codeOf c.result.2 := by
    intro n
    rw [lt_exitCode_iff, hresults]
    simp only [List.mem_map, exists_exists_and_eq_and]
  rw [hlt, hlt, hlt]
  refine ⟨?_, ?_, ?_⟩
  · refine exists_congr fun c => and_congr_right fun hc => ?_
    exact (Call.lt_codeOf_iff (hcode c hc)).1
  · rw [← exists_or]
    refine exists_congr fun c => ?_
    rw [← and_or_left]
    exact and_congr_right fun hc => (Call.lt_codeOf_iff (hcode c hc)).2.1
  · rw [← exists_or, ← exists_or]
    refine exists_congr fun c => ?_
    rw [← and_or_left, ← and_or_left]
    exact and_congr_right fun hc => (Call.lt_codeOf_iff (hcode c hc)).2.2

/-- **The exit code of a batch ranks what has gone wrong with its calls: it is 3 if a response
is malformed, whatever its status, and otherwise 2 if a call has brought no response, otherwise 1
if a status does not grant its request, and otherwise 0.  The code of two batches is the higher
one, the order of results does not matter, and a session tells in total the highest code of the
batches that it has shown.** -/
theorem exitCode_ranks_causes {σ : Type} (t : Transport σ GetError) (s : σ) (us : List String)
    (a b : Batch) (before later : List Session.Step) :
    (t.IsPlain → (t.calls s us).map Call.uri = us ∧
      (exitCode (t.fetchAll s us).1 = 3 ↔ ∃ c ∈ t.calls s us, c.Malformed) ∧
      (exitCode (t.fetchAll s us).1 = 2 ↔
        (¬ ∃ c ∈ t.calls s us, c.Malformed) ∧ ∃ c ∈ t.calls s us, c.Failed) ∧
      (exitCode (t.fetchAll s us).1 = 1 ↔
        (¬ ∃ c ∈ t.calls s us, c.Malformed) ∧ (¬ ∃ c ∈ t.calls s us, c.Failed) ∧
          ∃ c ∈ t.calls s us, c.Denied) ∧
      (exitCode (t.fetchAll s us).1 = 0 ↔
        (¬ ∃ c ∈ t.calls s us, c.Malformed) ∧ (¬ ∃ c ∈ t.calls s us, c.Failed) ∧
          ¬ ∃ c ∈ t.calls s us, c.Denied)) ∧
    exitCode (a ++ b) = max a.exitCode b.exitCode ∧
    (a.Perm b → a.exitCode = b.exitCode) ∧
    ∃ count, ((default : Session).run (before ++ .total :: later))[before.length]? =
      some (.total (((Session.batches (((default : Session).run (before ++ .total :: later)).take
        before.length)).map exitCode).max?.getD 0) count, Session.asked before) := by
  refine ⟨?_, exitCode_append a b, fun h => exitCode_of_mem_iff fun r => h.mem_iff, ?_⟩
  · intro ht
    obtain ⟨hmalformed, hfailed, hdenied⟩ := lt_exitCode_fetchAll_iff ht s us
    have hbound := exitCode_le_three (t.fetchAll s us).1
    refine ⟨(t.calls_spec s us).2.1, ?_, ?_, ?_, ?_⟩
    · have hthree : exitCode (t.fetchAll s us).1 = 3 ↔ 2 < exitCode (t.fetchAll s us).1 := by omega
      rw [hthree, hmalformed]
    · have htwo : exitCode (t.fetchAll s us).1 = 2 ↔
          ¬ 2 < exitCode (t.fetchAll s us).1 ∧ 1 < exitCode (t.fetchAll s us).1 := by omega
      rw [htwo, hmalformed, hfailed]
      exact and_congr_right or_iff_right
    · have hone : exitCode (t.fetchAll s us).1 = 1 ↔
          ¬ 1 < exitCode (t.fetchAll s us).1 ∧ 0 < exitCode (t.fetchAll s us).1 := by omega
      rw [hone, hfailed, hdenied, not_or, and_assoc]
      refine and_congr_right fun hm => and_congr_right fun hf => ?_
      rw [or_iff_right hm, or_iff_right hf]
    · have hzero : exitCode (t.fetchAll s us).1 = 0 ↔ ¬ 0 < exitCode (t.fetchAll s us).1 := by omega
      rw [hzero, hdenied, not_or, not_or]
  · have hresults : ((default : Session).after before).results.exitCode =
        ((Session.batches ((default : Session).run before)).map exitCode).max?.getD 0 := by
      rw [Session.results_after, ← exitCode_flatten]
      rfl
    refine ⟨((default : Session).after before).results.length, ?_⟩
    rw [Session.getElem?_run, Session.take_run, ← hresults, ← (Session.follows_after before).calls]
    rfl

/-- What is answered where one URI brings a page that claims to be JSON and no other is
reached. -/
def pageAnswer (uri : String) : Except GetError Response :=
  if uri = "/api" then .ok ⟨502, some "application/json", "<html>"⟩
  else .error (.configuration ("unreachable " ++ uri))

/-- A transport that answers so. -/
def pageTransport : Transport Unit GetError := ⟨fun s uri => (pageAnswer uri, s)⟩

/-- The page outranks its own rejection and the failure of another URI, in either order. -/
theorem exitCode_of_page :
    pageTransport.IsPlain ∧ exitCode (pageTransport.fetchAll () ["/api", "/x"]).1 = 3 ∧
      (pageTransport.fetchAll () ["/api", "/x"]).1.Perm
        (pageTransport.fetchAll () ["/api", "/x"]).1.reverse ∧
      exitCode (pageTransport.fetchAll () ["/api", "/x"]).1 =
        exitCode (pageTransport.fetchAll () ["/api", "/x"]).1.reverse := by
  have hplain : pageTransport.IsPlain := by
    intro s uri e he
    have hanswer : pageAnswer uri = .error e := he
    rw [pageAnswer] at hanswer
    split at hanswer
    · exact absurd hanswer (by simp)
    · obtain rfl := Except.error.inj hanswer
      exact ⟨fun _ _ => by simp, fun _ => by simp⟩
  have hpage : (⟨502, some "application/json", "<html>"⟩ : Response).IsMalformed := by
    refine ⟨⟨"", "", rfl⟩, ?_⟩
    rintro ⟨v, hv⟩
    have hparse : (Json.parse "<html>").isOk = false := by decide +kernel
    rw [Json.parse_eq_ok_iff.mpr hv] at hparse
    exact absurd hparse (by simp [Except.isOk, Except.toBool])
  have hcall : ∃ c ∈ pageTransport.calls () ["/api", "/x"], c.Malformed :=
    ⟨⟨"/api", .ok ⟨502, some "application/json", "<html>"⟩⟩, List.mem_cons_self, _, rfl, hpage⟩
  have hperm := (List.reverse_perm (pageTransport.fetchAll () ["/api", "/x"]).1).symm
  obtain ⟨hranks, -, hcodes, -⟩ :=
    exitCode_ranks_causes pageTransport () ["/api", "/x"] _ _ [] []
  obtain ⟨-, hthree, -⟩ := hranks hplain
  exact ⟨hplain, hthree.mpr hcall, hperm, hcodes hperm⟩

end Batch
end HttpGet
