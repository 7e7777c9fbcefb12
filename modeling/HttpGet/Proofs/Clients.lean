/-
What a client asks for over servers.

A client brings something from one request to the next, its connections, and an answer could depend
on them: one that leads elsewhere would be answered by another server, and one with something unread
would be answered with that.  Neither can happen.  A connection that is taken leads to where the URL
is, and `Clean` says that nothing is unread on those that are kept.  A request keeps this so,
whatever it is answered, and therefore all requests of a GET do, and all GETs of a batch.

So what a clean client comes to is decided by the replies of the servers, as it is without any
client: `Brings` says this of one action, and is carried from requests to GETs and to runs.  Where
the replies spell the routes of a network, a GET of the client is a GET over the network.
-/
import HttpGet.Proofs.Lookup
import HttpGet.Proofs.Messages
import HttpGet.Proofs.Redirection
import HttpGet.Servers

namespace HttpGet

/-! ### Actions without a memory -/

/-- Whether an action brings what a function says, in every state of some kind, and leaves one of
that kind. -/
def Brings {α β σ : Type} {m : Type → Type} [Monad m] (kind : σ → Prop) (act : α → StateT σ m β)
    (f : α → β) : Prop :=
  ∀ a st, kind st → ∃ st', (act a).run st = pure (f a, st') ∧ kind st'

/-- What a GET for a URI comes to where a function answers. -/
def Exchange.issued (answer : Url → Option Route) (uri : String) : Exchange :=
  (issue (m := Id) answer uri).run

namespace Brings

variable {σ : Type} {m : Type → Type} [Monad m] [LawfulMonad m] {kind : σ → Prop}
variable {ask : Url → StateT σ m (Option Route)} {answer : Url → Option Route}

/-- Redirects are followed from one state to the next, and each answer is that of the function. -/
theorem follow (h : Brings kind ask answer) (first : Url) (left : Nat) :
    Brings kind (Exchange.follow ask first left) (Exchange.followed answer first left) := by
  intro url st hst
  induction left using Nat.strongRecOn generalizing url st with
  | ind left ih =>
      obtain ⟨st', hask, hst'⟩ := h url st hst
      rw [Exchange.follow_eq, StateT.run_bind, hask, pure_bind, Exchange.followed_eq]
      cases hafter : Progress.after first left url (answer url) with
      | ended arrival => exact ⟨st', StateT.run_pure _ _, hst'⟩
      | redirected left' next =>
          obtain ⟨st'', hfollow, hst''⟩ := ih left' (Progress.left_lt_of_after hafter) next st' hst'
          refine ⟨st'', ?_, hst''⟩
          rw [StateT.run_bind, hfollow, pure_bind]
          exact StateT.run_pure _ _

theorem issue (h : Brings kind ask answer) :
    Brings kind (Exchange.issue ask) (Exchange.issued answer) := by
  intro uri st hst
  rw [Exchange.issued, Exchange.issue, Exchange.issue]
  cases Exchange.requested uri with
  | error e => exact ⟨st, StateT.run_pure _ _, hst⟩
  | ok url => exact h.follow url.shown Exchange.redirectLimit url.forRequest st hst

/-- Actions one after the other bring what the function says of each. -/
theorem mapM {α β : Type} {act : α → StateT σ m β} {f : α → β} (h : Brings kind act f) :
    Brings kind (List.mapM act) (List.map f) := by
  intro xs st hst
  induction xs generalizing st with
  | nil => exact ⟨st, by rw [List.mapM_nil, StateT.run_pure, List.map_nil], hst⟩
  | cons x xs ih =>
      obtain ⟨st', hact, hst'⟩ := h x st hst
      obtain ⟨st'', hrest, hst''⟩ := ih st' hst'
      refine ⟨st'', ?_, hst''⟩
      rw [List.mapM_cons, StateT.run_bind, hact, pure_bind, StateT.run_bind, hrest, pure_bind,
        StateT.run_pure, List.map_cons]

end Brings

/-- What servers answer to the request for a URL: what their reply spells.  There is no answer
through a tunnel. -/
def Servers.answer (s : Servers) (url : Url) : Option Route :=
  if url.isSecure then none else (Wire.message? (s.reply url.target).bytes).map (·.route)

/-! ### Connections -/

namespace Client

variable {κ : Type}

/-- Whether nothing is unread on the connections that a client keeps. -/
def Clean (client : Client κ) : Prop := ∀ c ∈ client.kept, c.unread = []

theorem clean_default : (default : Client κ).Clean := fun _ h => absurd h List.not_mem_nil

/-- A connection that is taken is one of those that are kept, and leads to where it is to lead. -/
theorem of_take? {origin : String} {kept others : List (Connection κ)} {c : Connection κ}
    (h : take? origin kept = some (c, others)) : c.origin = origin ∧ c ∈ kept ∧ others ⊆ kept := by
  induction kept generalizing c others with
  | nil => simp [take?] at h
  | cons d ds ih =>
      rw [take?] at h
      by_cases hd : d.origin = origin
      · rw [if_pos hd, Option.some.injEq, Prod.mk.injEq] at h
        obtain ⟨rfl, rfl⟩ := h
        exact ⟨hd, List.mem_cons_self, List.subset_cons_self d ds⟩
      · rw [if_neg hd, Option.map_eq_some_iff] at h
        obtain ⟨⟨c', others'⟩, htake, heq⟩ := h
        obtain ⟨rfl, rfl⟩ := Prod.mk.inj heq
        obtain ⟨horigin, hmem, hsubset⟩ := ih htake
        exact ⟨horigin, List.mem_cons_of_mem d hmem, List.cons_subset_cons d hsubset⟩

/-- A connection is only kept if nothing is unread on it. -/
theorem exists_read (c : Connection κ) (bytes : List UInt8) (closed : Bool) :
    ∃ again?, c.read bytes closed = ((Wire.message? bytes).map (·.route), again?) ∧
      ∀ d ∈ again?, d.unread = [] := by
  rw [Connection.read]
  cases Wire.message? bytes with
  | none => exact ⟨none, rfl, by simp⟩
  | some message =>
      refine ⟨_, rfl, fun d hd => ?_⟩
      rw [Option.mem_def, Option.ite_none_right_eq_some, Bool.and_eq_true, Option.some.injEq] at hd
      obtain ⟨⟨-, hrest⟩, rfl⟩ := hd
      exact List.isEmpty_iff.mp hrest

/-- Whether a connection leads to where a URL is, and nothing is unread on it. -/
structure Ready (c : Connection κ) (url : Url) : Prop where
  origin : c.origin = url.origin
  unread : c.unread = []

variable (s : Servers) (pooling : Pooling Unit) (url : Url)

/-- The connection for a request is ready for its URL, and the others are kept as they were. -/
theorem exists_connection {kept : List (Connection Unit)} (h : ∀ c ∈ kept, c.unread = []) :
    ∃ c others, (connection s.carrier url kept).run = (some c, others) ∧ Ready c url ∧
      others ⊆ kept := by
  cases htake : take? url.origin kept with
  | none =>
      refine ⟨⟨url.origin, (), []⟩, kept, ?_, ⟨rfl, rfl⟩, List.Subset.refl kept⟩
      simp only [connection, htake]
      rfl
  | some taken =>
      obtain ⟨c, others⟩ := taken
      obtain ⟨horigin, hmem, hsubset⟩ := of_take? htake
      refine ⟨c, others, ?_, ⟨horigin, h c hmem⟩, hsubset⟩
      simp only [connection, htake]
      rfl

/-- What comes over a connection that is ready is the reply to the request. -/
theorem send_of_ready {c : Connection Unit} (h : Ready c url) :
    (s.carrier.send c url).run = ((s.reply url.target).bytes, (s.reply url.target).closes) := by
  simp only [Servers.carrier, h.origin, h.unread, Url.origin_append_pathAndQuery, List.nil_append]
  rfl

/-- **A clean client is answered what the reply to its request spells, and stays clean.** -/
theorem ask_brings_answer : Brings Clean (ask s.carrier pooling) s.answer := by
  intro url client h
  rw [Servers.answer]
  by_cases hsecure : url.isSecure = true
  · refine ⟨client, ?_, h⟩
    simp only [ask, StateT.run, if_pos hsecure]
  · have hsift : ∀ c ∈ pooling.sift client.asked client.kept, c.unread = [] :=
      fun c hc => h c (pooling.sift_subset client.asked client.kept hc)
    obtain ⟨c, others, hconnection, hready, hothers⟩ := exists_connection s url hsift
    obtain ⟨again?, hread, hclean⟩ :=
      exists_read c (s.reply url.target).bytes (s.reply url.target).closes
    rw [if_neg hsecure]
    refine ⟨⟨again?.toList ++ others, client.asked + 1⟩, ?_, ?_⟩
    · change (ask s.carrier pooling url client).run = _
      rw [ask, if_neg hsecure, Id.run_bind, hconnection]
      dsimp only
      rw [Id.run_bind, send_of_ready s url hready]
      dsimp only
      rw [hread]
      rfl
    · intro d hd
      obtain hd | hd := List.mem_append.mp hd
      · exact hclean d (Option.mem_toList.mp hd)
      · exact hsift d (hothers hd)

theorem exchange_brings_issued :
    Brings Clean (exchange s.carrier pooling) (Exchange.issued s.answer) :=
  (ask_brings_answer s pooling).issue

end Client

/-! ### Servers of a network -/

/-- Whether a reply is a response: its bytes spell it, and come to their end with the connection, if
the response does not tell its own end. -/
structure Reply.Sends (reply : Reply) (route : Route) : Prop where
  bytes : ∃ sent rest, Wire.Spells route sent ∧ reply.bytes = sent ++ rest ∧
    (rest = [] ∨ route.delivered.isDelimited = true)
  closes : reply.closes = true ∨ route.delivered.isDelimited = true

/-- Whether servers reply as a network says: with the response of a route, or with a connection that
they close. -/
structure Servers.Serves (s : Servers) (net : Network) : Prop where
  found : ∀ {target : String} {route : Route}, net.lookup target = some route →
    (s.reply target).Sends route
  missing : ∀ {target : String}, net.lookup target = none → s.reply target = ⟨[], true⟩

theorem Servers.Serves.nil : Servers.Serves [] [] where
  found h := absurd h (by simp)
  missing _ := rfl

/-- Servers that serve a network serve another route with a reply that sends it. -/
theorem Servers.Serves.cons {s : Servers} {net : Network} {reply : Reply} {route : Route}
    (target : String) (hreply : reply.Sends route) (h : s.Serves net) :
    Servers.Serves ((target, reply) :: s) ((target, route) :: net) := by
  have hlookup : ∀ other, Servers.reply ((target, reply) :: s) other =
      if other = target then reply else s.reply other := by
    intro other
    rw [Servers.reply, lookup_cons_eq]
    split <;> rfl
  constructor
  · intro other found hfound
    rw [lookup_cons_eq] at hfound
    rw [hlookup]
    split at hfound
    · obtain rfl := Option.some.inj hfound
      rwa [if_pos ‹_›]
    · rw [if_neg ‹_›]
      exact h.found hfound
  · intro other hmissing
    rw [lookup_cons_eq] at hmissing
    rw [hlookup]
    split at hmissing
    · exact absurd hmissing (by simp)
    · rw [if_neg ‹_›]
      exact h.missing hmissing

theorem Route.receive_delivered (r : Route) : r.delivered.receive = r.receive := by
  rw [delivered]
  by_cases hbody : r.hasBody = true
  · rw [if_pos hbody]
  · have hempty : ¬ (⟨r.status, r.headers, [], .length⟩ : Route).hasBody = true := hbody
    rw [if_neg hbody, receive, receive, if_neg hbody, if_neg hempty]

/-- What comes after an answer does not depend on a body that is not delivered. -/
theorem Progress.after_delivered (first : Url) (left : Nat) (url : Url) (answer : Option Route) :
    after first left url (answer.map Route.delivered) = after first left url answer := by
  cases answer with
  | none => rfl
  | some route =>
      have hstatus : route.delivered.status = route.status := by
        rw [Route.delivered]
        split <;> rfl
      have htype : route.delivered.contentType = route.contentType := by
        rw [Route.delivered]
        split <;> rfl
      have htarget : url.redirectTarget? route.delivered = url.redirectTarget? route := by
        rw [Route.delivered]
        split <;> rfl
      simp only [Option.map_some, after, htarget, hstatus, htype, route.receive_delivered]

namespace Exchange

theorem followed_of_delivered {answer answer' : Url → Option Route}
    (h : ∀ url, answer url = (answer' url).map Route.delivered) (first : Url) (left : Nat)
    (url : Url) : followed answer first left url = followed answer' first left url := by
  induction left using Nat.strongRecOn generalizing url with
  | ind left ih =>
      rw [followed_eq, followed_eq, h url, Progress.after_delivered]
      cases hafter : Progress.after first left url (answer' url) with
      | ended arrival => rfl
      | redirected left' next =>
          dsimp only
          rw [ih left' (Progress.left_lt_of_after hafter) next]

theorem issued_of_delivered {answer answer' : Url → Option Route}
    (h : ∀ url, answer url = (answer' url).map Route.delivered) (uri : String) :
    issued answer uri = issued answer' uri := by
  rw [issued, issued, issue, issue]
  cases requested uri with
  | error e => rfl
  | ok url => exact followed_of_delivered h url.shown redirectLimit url.forRequest

end Exchange

/-- Nothing is spelled by no bytes. -/
theorem Wire.message?_nil : message? [] = none := by
  rw [message?, head?]
  rfl

/-- **A GET over the bytes of servers is the GET over the network that they serve.** -/
theorem Servers.Serves.issued_eq {s : Servers} {net : Network} (h : s.Serves net) (uri : String) :
    Exchange.issued s.answer uri = net.exchange .up uri := by
  refine Exchange.issued_of_delivered (fun url => ?_) uri
  rw [answer, Network.answer]
  by_cases hsecure : url.isSecure = true
  · rw [if_pos hsecure, if_pos hsecure, Option.map_none]
  · rw [if_neg hsecure, if_neg hsecure]
    cases hroute : net.lookup url.target with
    | none => rw [h.missing hroute, Option.map_none, Wire.message?_nil, Option.map_none]
    | some route =>
        obtain ⟨sent, rest, hspells, hbytes, hrest⟩ := (h.found hroute).bytes
        obtain ⟨persists, hmessage⟩ := Wire.message?_of_spells hspells hrest
        rw [hbytes, hmessage, Option.map_some, Option.map_some]

end HttpGet
