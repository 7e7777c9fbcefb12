/-
Sessions over a table of routes.

A table of routes is a transport: it answers a URI as its route says, and counts how often
it was asked.  A session changes routes and issues GETs and batches, step by step; it keeps
the results of its batches, so that it can tell their exit code as a whole.
-/
import HttpGet.Batch

namespace HttpGet

/-- Routes, each a URI with what a request for it brings, and how often they were asked
for. -/
structure RouteTable where
  routes : List (String × Except GetError Response)
  calls : Nat
deriving Repr

/-- A table without routes. -/
instance : Inhabited RouteTable := ⟨⟨[], 0⟩⟩

namespace RouteTable

/-- What a request for a URI brings; without a route, an error. -/
def answer (t : RouteTable) (uri : String) : Except GetError Response :=
  (t.routes.lookup uri).getD (.error (.configuration ("unreachable " ++ uri)))

/-- Set the route of a URI. -/
def set (t : RouteTable) (uri : String) (answer : Except GetError Response) : RouteTable :=
  { t with routes := (uri, answer) :: t.routes }

/-- Remove the route of a URI. -/
def erase (t : RouteTable) (uri : String) : RouteTable :=
  { t with routes := t.routes.filter (·.1 ≠ uri) }

/-- A table as a transport. -/
def transport : Transport RouteTable GetError where
  get t uri := (t.answer uri, { t with calls := t.calls + 1 })

end RouteTable

/-- A session: its routes, and the results of its batches so far. -/
structure Session where
  table : RouteTable
  results : Batch
deriving Repr

/-- A session at its start. -/
instance : Inhabited Session := ⟨⟨default, []⟩⟩

namespace Session

/-- A step of a session. -/
inductive Step where
  | route (uri : String) (response : Response)
  | fail (uri : String) (error : GetError)
  | unroute (uri : String)
  | get (uri : String)
  | batch (uris : List String)
  | total
deriving Repr

/-- What a step shows. -/
inductive Outcome where
  | changed
  | settled (result : Settlement)
  | batch (results : Batch)
  | total (exitCode count : Nat)
deriving Repr

/-- Take a step. -/
def step (s : Session) : Step → Outcome × Session
  | .route uri response => (.changed, { s with table := s.table.set uri (.ok response) })
  | .fail uri error => (.changed, { s with table := s.table.set uri (.error error) })
  | .unroute uri => (.changed, { s with table := s.table.erase uri })
  | .get uri =>
    let (result, table) := RouteTable.transport.fetch s.table uri
    (.settled result, { s with table })
  | .batch uris =>
    let (results, table) := RouteTable.transport.fetchAll s.table uris
    (.batch results, { s with table, results := s.results ++ results })
  | .total => (.total s.results.exitCode s.results.length, s)

/-- Take steps one after the other: what each shows, and how often the routes had been asked
for after it. -/
def run (s : Session) : List Step → List (Outcome × Nat)
  | [] => []
  | first :: rest =>
    let (outcome, s) := s.step first
    (outcome, s.table.calls) :: s.run rest

end Session
end HttpGet
