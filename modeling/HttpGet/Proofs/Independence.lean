/-
GETs that do not see each other.

A batch uses one client for all its GETs, and the client brings along its connections.  Nothing that
a GET comes to depends on them: whatever the servers send, the client is clean after each GET, and a
clean client comes to what a new one comes to and asks for the same.  One step shows this for every
clean client, and so a batch is its GETs one by one, through redirects, refused tunnels, missing
routes and bodies that end too early alike.

Each GET of a batch has its own result and its own requests, then, and another choice of the
same URIs, in whatever order and however often, makes the same choice of these.  A run is such a
batch too.
-/
import HttpGet.Proofs.Batches
import HttpGet.Proofs.Clients
import HttpGet.Proofs.Reporting

namespace HttpGet

namespace Servers

variable (s : Servers) (pooling : Pooling Unit)

/-- What a GET comes to as the replies decide it, and its requests. -/
def result (uri : String) : Settlement × List String :=
  (Settlement.ofAnswer ((Exchange.issued s.answer uri).response.mapError .transport),
    (Exchange.issued s.answer uri).requests)

/-- A clean client brings what the replies decide and stays clean. -/
theorem exists_get_of_clean {client : Client Unit} (h : client.Clean) (seen : List String)
    (uri : String) :
    ∃ client', (s.transport pooling).get (client, seen) uri =
      ((Exchange.issued s.answer uri).response.mapError .transport, client',
        seen ++ (Exchange.issued s.answer uri).requests) ∧ client'.Clean := by
  obtain ⟨client', hexchange, hclean⟩ := Client.exchange_brings_issued s pooling uri client h
  exact ⟨client', by simp only [transport, hexchange, Id.run_pure], hclean⟩

theorem exists_fetch_of_clean {client : Client Unit} (h : client.Clean) (seen : List String)
    (uri : String) :
    ∃ client', (s.transport pooling).fetch (client, seen) uri =
      ((s.result uri).1, client', seen ++ (s.result uri).2) ∧ client'.Clean := by
  obtain ⟨client', hget, hclean⟩ := s.exists_get_of_clean pooling h seen uri
  exact ⟨client', by rw [Transport.fetch_eq, hget, result], hclean⟩

/-- What a GET comes to with a client of its own. -/
theorem get_eq_result (uri : String) : s.get pooling uri = s.result uri := by
  obtain ⟨client, hfetch, -⟩ := s.exists_fetch_of_clean pooling Client.clean_default [] uri
  simp only [get, hfetch, List.nil_append]

/-- A GET over the bytes of servers comes to what it comes to over the network that they serve, and
asks for the same. -/
theorem get_eq_of_serves {net : Network} (h : s.Serves net) (uri : String) :
    s.get pooling uri = net.get .up uri := by
  rw [get_eq_result, result, h.issued_eq, Network.get, Transport.fetch_eq]
  simp only [Network.transport, List.nil_append]

/-- A clean client brings the results of a batch one by one, and stays clean. -/
theorem exists_fetchAll_of_clean {client : Client Unit} (h : client.Clean)
    (seen uris : List String) :
    ∃ client', (s.transport pooling).fetchAll (client, seen) uris =
      (uris.map fun uri => (uri, (s.result uri).1), client',
        seen ++ uris.flatMap fun uri => (s.result uri).2) ∧ client'.Clean := by
  induction uris generalizing client seen with
  | nil => exact ⟨client, by rw [List.flatMap_nil, List.append_nil]; rfl, h⟩
  | cons uri uris ih =>
      obtain ⟨client', hfetch, hclean⟩ := s.exists_fetch_of_clean pooling h seen uri
      obtain ⟨client'', hrest, hclean'⟩ := ih hclean (seen ++ (s.result uri).2)
      refine ⟨client'', ?_, hclean'⟩
      rw [Transport.fetchAll_cons, hfetch, hrest, List.map_cons, List.flatMap_cons, List.append_assoc]

theorem getAll_eq_results (uris : List String) :
    s.getAll pooling uris =
      (uris.map fun uri => (uri, (s.result uri).1), uris.flatMap fun uri => (s.result uri).2) := by
  obtain ⟨client, hfetchAll, -⟩ :=
    s.exists_fetchAll_of_clean pooling Client.clean_default [] uris
  simp only [getAll, hfetchAll, List.nil_append]

/-- What each GET of a batch adds to the requests of its client. -/
def requestGroups (client : Client Unit × List String) : List String → List (List String)
  | [] => []
  | uri :: uris =>
    let next := ((s.transport pooling).fetch client uri).2
    next.2.drop client.2.length :: requestGroups next uris

theorem requestGroups_of_clean {client : Client Unit} (h : client.Clean) (seen uris : List String) :
    s.requestGroups pooling (client, seen) uris = uris.map fun uri => (s.result uri).2 := by
  induction uris generalizing client seen with
  | nil => rfl
  | cons uri uris ih =>
      obtain ⟨client', hfetch, hclean⟩ := s.exists_fetch_of_clean pooling h seen uri
      rw [requestGroups, hfetch, List.map_cons, ih hclean, List.drop_left]

/-- The requests of a batch, those of each GET for themselves. -/
def getAllRequests (uris : List String) : List (List String) :=
  s.requestGroups pooling (default, []) uris

/-- **The GETs of a batch share nothing, whatever bytes the servers send and however long their
connections are kept.  After any other GETs of its client, a GET comes to what it comes to with a
client of its own, and asks for the same; so a batch has the results of the single GETs, and their
requests one after the other.  The batch of any choice of its URIs, in another order, repeated or
left out, has that choice of its results and of its requests.** -/
theorem getAll_each_alone (pooling' : Pooling Unit) (us : List String) :
    (∀ earlier uri, ∃ client,
      (s.transport pooling).fetch ((s.transport pooling).fetchAll (default, []) earlier).2 uri =
        ((s.get pooling' uri).1, client,
          (s.getAll pooling earlier).2 ++ (s.get pooling' uri).2)) ∧
    (s.getAll pooling us).1 = us.map (fun uri => (uri, (s.get pooling' uri).1)) ∧
    (s.getAll pooling us).2 = (s.getAllRequests pooling us).flatten ∧
    s.getAllRequests pooling us = us.map (fun uri => (s.get pooling' uri).2) ∧
    ∀ picks : List (Fin us.length),
      (s.getAll pooling (picks.map us.get)).1.map some =
        picks.map (fun i => (s.getAll pooling us).1[i.val]?) ∧
      (s.getAllRequests pooling (picks.map us.get)).map some =
        picks.map (fun i => (s.getAllRequests pooling us)[i.val]?) := by
  have hresults : ∀ uri, s.get pooling' uri = s.result uri := s.get_eq_result pooling'
  have hgroups : ∀ uris, s.getAllRequests pooling uris = uris.map fun uri => (s.result uri).2 :=
    fun uris => s.requestGroups_of_clean pooling Client.clean_default [] uris
  -- a choice of URIs makes the same choice of what belongs to each
  have hpicks : ∀ {β : Type} (f : String → β) (picks : List (Fin us.length)),
      ((picks.map us.get).map f).map some = picks.map fun i => (us.map f)[i.val]? := by
    intro β f picks
    rw [List.map_map, List.map_map]
    refine List.map_congr_left fun i _ => ?_
    rw [List.getElem?_map, List.getElem?_eq_getElem i.isLt, Option.map_some]
    rfl
  simp only [hresults]
  refine ⟨?_, ?_, ?_, hgroups us, ?_⟩
  · intro earlier uri
    obtain ⟨client, hearlier, hclean⟩ :=
      s.exists_fetchAll_of_clean pooling Client.clean_default [] earlier
    obtain ⟨client', hfetch, -⟩ := s.exists_fetch_of_clean pooling hclean
      ([] ++ earlier.flatMap fun uri => (s.result uri).2) uri
    exact ⟨client', by rw [hearlier, hfetch, List.nil_append, getAll_eq_results]⟩
  · rw [getAll_eq_results]
  · rw [getAll_eq_results, hgroups, List.flatMap_def]
  · intro picks
    rw [getAll_eq_results, getAll_eq_results, hgroups, hgroups]
    exact ⟨hpicks _ picks, hpicks _ picks⟩

/-- A response that tells its end leaves its connection to the next GET.  If a refusal were unread
on that connection, it would be taken for the answer. -/
example :
    let s : Servers := [("http://a.test/x",
      ⟨Utf8.encode "HTTP/1.1 200 OK\r\nContent-Length: 2\r\n\r\nhi", false⟩)]
    let unread := Utf8.encode "HTTP/1.1 404 Not Found\r\nContent-Length: 0\r\n\r\n"
    let fetch client := (s.transport default).fetch (client, []) "http://a.test/x"
    (fetch default).1.toBool = true ∧
      (fetch default).2.1.kept = [⟨"http://a.test", (), []⟩] ∧
      (fetch ⟨[⟨"http://a.test", (), unread⟩], 0⟩).1.toBool = false := by decide +kernel

end Servers

/-! ### Runs -/

/-- A run does not depend on what its GETs leave behind, if they do not. -/
theorem Run.runWith_brings {σ : Type} {m : Type → Type} [Monad m] [LawfulMonad m] {kind : σ → Prop}
    {get : String → StateT σ m Exchange} {f : String → Exchange} (h : Brings kind get f)
    (files : FileReader) (env : Environment) :
    Brings kind (runWith files env get) (run ⟨files, env, f⟩) := by
  have hpaired : Brings kind (fun uri => do return (uri, ← get uri)) fun uri => (uri, f uri) := by
    intro uri st hst
    obtain ⟨st', hget, hst'⟩ := h uri st hst
    exact ⟨st', by rw [StateT.run_bind, hget, pure_bind, StateT.run_pure], hst'⟩
  intro arguments st hst
  rw [runWith, run]
  cases plan files env arguments with
  | finished outcome => exact ⟨st, StateT.run_pure _ _, hst⟩
  | fetch settings logging =>
      obtain ⟨st', hexchanges, hst'⟩ := hpaired.mapM settings.uris st hst
      refine ⟨st', ?_, hst'⟩
      dsimp only
      rw [StateT.run_bind, hexchanges, pure_bind, StateT.run_pure]

/-- What a run comes to with a new client for all its GETs. -/
theorem Run.runWith_default (s : Servers) (pooling : Pooling Unit) (files : FileReader)
    (env : Environment) (arguments : List String) :
    ((runWith files env (Client.exchange s.carrier pooling) arguments).run default).run.1 =
      run ⟨files, env, Exchange.issued s.answer⟩ arguments := by
  obtain ⟨client, hrun, -⟩ := runWith_brings (Client.exchange_brings_issued s pooling) files env
    arguments default Client.clean_default
  rw [hrun, Id.run_pure]

/-- **A run with one client for all its GETs is a run whose GETs have clients of their own.** -/
theorem Run.runWith_each_alone (s : Servers) (pooling pooling' : Pooling Unit) (files : FileReader)
    (env : Environment) (arguments : List String) :
    ((runWith files env (Client.exchange s.carrier pooling) arguments).run default).run.1 =
      run ⟨files, env, fun uri => ((Client.exchange s.carrier pooling' uri).run default).run.1⟩
        arguments := by
  have halone : (fun uri => ((Client.exchange s.carrier pooling' uri).run default).run.1) =
      Exchange.issued s.answer := by
    funext uri
    obtain ⟨client, hexchange, -⟩ :=
      Client.exchange_brings_issued s pooling' uri default Client.clean_default
    rw [hexchange, Id.run_pure]
  rw [runWith_default, halone]

/-- A run with one client over the bytes of servers is the run over the network that they serve. -/
theorem Run.runWith_of_serves {s : Servers} {net : Network} (h : s.Serves net)
    (pooling : Pooling Unit) (files : FileReader) (env : Environment) (arguments : List String) :
    ((runWith files env (Client.exchange s.carrier pooling) arguments).run default).run.1 =
      run ⟨files, env, net.exchange .up⟩ arguments := by
  have hissued : Exchange.issued s.answer = net.exchange .up := funext h.issued_eq
  rw [runWith_default, hissued]

end HttpGet
