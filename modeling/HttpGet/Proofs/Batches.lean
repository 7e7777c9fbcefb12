/-
What a batch asks of its transport.

A transport is a machine: what it answers may depend on all that it was asked before.  What a
batch does to it is therefore told by the calls themselves, and a transport that keeps a record
shows them.  The record of a batch names its URIs, each once and in order, and each call finds
the transport in the state in which the one before has left it, whatever that one has come to.
What the batch comes to is read off the record.

A table of routes is a transport whose state is the number of its calls.  Its answers do not
depend on that number, so a batch of it is a plain map, and adds its length to the number.
-/
import HttpGet.Session
import HttpGet.Proofs.Lookup

namespace HttpGet

/-- What an answer comes to: a response is settled, and an error stays what it is. -/
def Settlement.ofAnswer : Except GetError Response → Settlement
  | .ok response => response.settle
  | .error e => .error e

/-- A call of a transport: the URI that was asked for, and the answer. -/
structure Call where
  uri : String
  answer : Except GetError Response

/-- What a call adds to a batch. -/
def Call.result (c : Call) : String × Settlement := (c.uri, Settlement.ofAnswer c.answer)

namespace Transport

/-! ### The record of a batch -/

variable {σ : Type} (t : Transport σ GetError)

/-- Calls that are made one after the other, from one state to another: each finds the
transport in the state in which the one before has left it. -/
inductive Serves : σ → List Call → σ → Prop
  | nil (s : σ) : Serves s [] s
  | cons {s s' last : σ} {uri : String} {answer : Except GetError Response} {calls : List Call}
      (call : t.get s uri = (answer, s')) (rest : Serves s' calls last) :
      Serves s (⟨uri, answer⟩ :: calls) last

/-- A transport with a record of the calls that are made to it. -/
def recorded : Transport (σ × List Call) GetError where
  get s uri :=
    let (answer, next) := t.get s.1 uri
    (answer, next, s.2 ++ [⟨uri, answer⟩])

/-- The calls that a batch makes, as the record shows them. -/
def calls (s : σ) (uris : List String) : List Call := (t.recorded.fetchAll (s, []) uris).2.2

theorem fetch_eq (s : σ) (uri : String) :
    t.fetch s uri = (Settlement.ofAnswer (t.get s uri).1, (t.get s uri).2) := by
  rw [fetch]
  split
  · rename_i response s' h
    rw [h]
    rfl
  · rename_i e s' h
    rw [h]
    rfl

theorem fetchAll_cons (s : σ) (uri : String) (uris : List String) :
    t.fetchAll s (uri :: uris) =
      ((uri, (t.fetch s uri).1) :: (t.fetchAll (t.fetch s uri).2 uris).1,
        (t.fetchAll (t.fetch s uri).2 uris).2) := rfl

/-- Keeping a record changes nothing that a batch comes to, and what it gains in a batch are
calls that have served the URIs of the batch, each once. -/
theorem exists_serves_fetchAll (s : σ) (record : List Call) (uris : List String) :
    ∃ calls, t.Serves s calls (t.fetchAll s uris).2 ∧ calls.map Call.uri = uris ∧
      (t.fetchAll s uris).1 = calls.map Call.result ∧
      t.recorded.fetchAll (s, record) uris =
        ((t.fetchAll s uris).1, (t.fetchAll s uris).2, record ++ calls) := by
  induction uris generalizing s record with
  | nil => exact ⟨[], .nil s, rfl, rfl, by rw [List.append_nil]; rfl⟩
  | cons uri uris ih =>
      obtain ⟨calls, hserves, huris, hresults, hrecord⟩ :=
        ih (t.get s uri).2 (record ++ [⟨uri, (t.get s uri).1⟩])
      refine ⟨⟨uri, (t.get s uri).1⟩ :: calls, ?_, ?_, ?_, ?_⟩
      · rw [fetchAll_cons, fetch_eq]
        exact .cons rfl hserves
      · rw [List.map_cons, huris]
      · rw [fetchAll_cons, fetch_eq, hresults]
        rfl
      · have hget : t.recorded.get (s, record) uri =
            ((t.get s uri).1, (t.get s uri).2, record ++ [⟨uri, (t.get s uri).1⟩]) := rfl
        rw [fetchAll_cons, fetchAll_cons, fetch_eq, fetch_eq, hget, hrecord, List.append_assoc]
        rfl

/-- The record of a batch holds the calls that have served its URIs. -/
theorem calls_spec (s : σ) (uris : List String) :
    t.Serves s (t.calls s uris) (t.fetchAll s uris).2 ∧
      (t.calls s uris).map Call.uri = uris ∧
      (t.fetchAll s uris).1 = (t.calls s uris).map Call.result ∧
      t.recorded.fetchAll (s, []) uris =
        ((t.fetchAll s uris).1, (t.fetchAll s uris).2, t.calls s uris) := by
  obtain ⟨calls, hserves, huris, hresults, hrecord⟩ := t.exists_serves_fetchAll s [] uris
  have hcalls : t.calls s uris = calls := by
    rw [Transport.calls, hrecord, List.nil_append]
  rw [hcalls, hrecord]
  exact ⟨hserves, huris, hresults, rfl⟩

end Transport

/-! ### Tables of routes -/

namespace RouteTable

/-- What is answered to a URI without a route. -/
def unreachable (uri : String) : Except GetError Response :=
  .error (.configuration ("unreachable " ++ uri))

theorem answer_set (t : RouteTable) (uri other : String) (answer : Except GetError Response) :
    (t.set uri answer).answer other = if other = uri then answer else t.answer other := by
  rw [RouteTable.answer, set, lookup_cons_eq]
  by_cases h : other = uri
  · rw [if_pos h, if_pos h, Option.getD_some]
  · rw [if_neg h, if_neg h, RouteTable.answer]

theorem answer_erase (t : RouteTable) (uri other : String) :
    (t.erase uri).answer other = if other = uri then unreachable uri else t.answer other := by
  rw [RouteTable.answer, erase, lookup_filter_key]
  by_cases h : other = uri
  · rw [if_pos h, if_pos h, h]
    rfl
  · rw [if_neg h, if_neg h]
    rfl

/-- A GET of a table is answered as its routes say, and counted. -/
theorem fetch_transport (t : RouteTable) (uri : String) :
    transport.fetch t uri =
      (Settlement.ofAnswer (t.answer uri), { t with calls := t.calls + 1 }) := by
  rw [Transport.fetch_eq]
  rfl

theorem fetchAll_transport (t : RouteTable) (uris : List String) :
    transport.fetchAll t uris =
      (uris.map fun uri => (uri, Settlement.ofAnswer (t.answer uri)),
        { t with calls := t.calls + uris.length }) := by
  induction uris generalizing t with
  | nil => rfl
  | cons uri uris ih =>
      have hcalls : t.calls + 1 + uris.length = t.calls + (uri :: uris).length := by
        rw [List.length_cons]
        omega
      rw [Transport.fetchAll_cons, fetch_transport, ih, List.map_cons, ← hcalls]
      rfl

end RouteTable
end HttpGet
