/-
What a GET asks for, and which answer it settles.

A GET leaves a trail of URLs: the one it was issued for, and then always the one that the last
answer redirects to.  Redirecting is a relation between URLs that the network alone decides, so
the trail is a chain of that relation, and only its length depends on how many redirects are
followed.  The answer at the end of the trail is the one that the GET settles, if it is
complete; it is never one that redirects.  A location that no request can name does not redirect,
and so an answer that gives one is settled itself.

Where the network redirects more often than is followed, and so on every cycle, the trail is as
long as it can be and the GET fails.
-/
import HttpGet.Network
import Mathlib.Data.List.Chain
import Mathlib.Logic.Relation

namespace HttpGet

/-! ### Redirects -/

/-- Whether a response names a location. -/
def Route.Names (r : Route) (location : String) : Prop :=
  ∃ bytes, r.header? "location" = some bytes ∧ Utf8.decode? bytes = some location

/-- The text of a response that is complete: none is delivered where the status allows none. -/
def Route.text (r : Route) : String :=
  if r.status = 204 ∨ r.status = 304 then "" else Utf8.decodeLossy r.body

/-- Whether the body of a response is delivered as it was announced. -/
def Route.IsComplete (r : Route) : Prop := r.status = 204 ∨ r.status = 304 ∨ r.framing ≠ .short

/-- The response of a route: its content type and its text are decoded lossily. -/
def Route.response (r : Route) : Response := ⟨r.status, r.contentType, r.text⟩

namespace Network

/-- Whether the answer to a request for a URL redirects to another: its status is one that
redirects, and the location that it names, seen from the URL, is one that a request can name, and
asks for the other. -/
def Redirects (net : Network) (u v : Url) : Prop :=
  u.scheme = "http".toList ∧ ∃ route location target,
    net.lookup u.target = some route ∧ route.status ∈ [301, 302, 303, 307, 308] ∧
    route.Names location ∧ u.join? location = some target ∧ target.isNameable = true ∧
    v = target.forRequest

/-- Whether the network redirects so often from a URL on. -/
def RedirectsTimes (net : Network) : Nat → Url → Prop
  | 0, _ => True
  | n + 1, u => ∃ v, net.Redirects u v ∧ net.RedirectsTimes n v

/-- URLs from a first one to a last one, each redirected to the next. -/
structure Trail (net : Network) (first last : Url) (urls : List Url) : Prop where
  head : urls.head? = some first
  getLast : urls.getLast? = some last
  redirects : urls.IsChain net.Redirects
  http : ∀ u ∈ urls, u.isHttp

/-- Whether a route answers the request for a URL and redirects no further. -/
structure Final (net : Network) (u : Url) (route : Route) : Prop where
  scheme : u.scheme = "http".toList
  found : net.lookup u.target = some route
  stays : ∀ v, ¬ net.Redirects u v

end Network

theorem Url.redirectTarget?_eq_some_iff {u v : Url} {r : Route} :
    u.redirectTarget? r = some v ↔ r.status ∈ [301, 302, 303, 307, 308] ∧
      ∃ location target, r.Names location ∧ u.join? location = some target ∧
        target.isNameable = true ∧ v = target.forRequest := by
  have hredirects : r.redirects = true ↔ r.status ∈ [301, 302, 303, 307, 308] :=
    List.contains_iff_mem
  rw [redirectTarget?, ← hredirects]
  by_cases hstatus : r.redirects = true
  · rw [if_pos hstatus]
    simp only [Option.bind_eq_bind, Option.bind_eq_some_iff, Option.ite_none_right_eq_some,
      Option.some.injEq]
    constructor
    · rintro ⟨bytes, hbytes, location, hlocation, target, htarget, hnameable, rfl⟩
      exact ⟨hstatus, location, target, ⟨bytes, hbytes, hlocation⟩, htarget, hnameable, rfl⟩
    · rintro ⟨-, location, target, ⟨bytes, hbytes, hlocation⟩, htarget, hnameable, rfl⟩
      exact ⟨bytes, hbytes, location, hlocation, target, htarget, hnameable, rfl⟩
  · simp [hstatus]

theorem Route.receive_eq_ok_iff {r : Route} {s : String} :
    r.receive = .ok s ↔ r.IsComplete ∧ s = r.text := by
  rw [Route.receive, Route.hasBody, Route.IsComplete, Route.text]
  by_cases hempty : r.status = 204 ∨ r.status = 304
  · rcases hempty with h | h <;> simp [h, eq_comm]
  · obtain ⟨h204, h304⟩ := not_or.mp hempty
    by_cases hshort : r.framing = .short
    · simp [h204, h304, hshort]
    · simp [h204, h304, hshort, eq_comm]

namespace Network

theorem answer_eq_some_iff {net : Network} {u : Url} {route : Route} (h : u.isHttp) :
    net.answer u = some route ↔ u.scheme = "http".toList ∧ net.lookup u.target = some route := by
  rw [Url.isHttp, Bool.or_eq_true, decide_eq_true_eq, decide_eq_true_eq] at h
  rcases h with h | h
  · simp [answer, Url.isSecure, h]
  · simp [answer, Url.isSecure, h]

theorem redirects_iff {net : Network} {u v : Url} (h : u.isHttp) :
    net.Redirects u v ↔ ∃ route, net.answer u = some route ∧ u.redirectTarget? route = some v := by
  simp only [answer_eq_some_iff h, Url.redirectTarget?_eq_some_iff, Redirects]
  constructor
  · rintro ⟨hscheme, route, location, target, hroute, hstatus, hrest⟩
    exact ⟨route, ⟨hscheme, hroute⟩, hstatus, location, target, hrest⟩
  · rintro ⟨route, ⟨hscheme, hroute⟩, hstatus, location, target, hrest⟩
    exact ⟨hscheme, route, location, target, hroute, hstatus, hrest⟩

theorem final_iff {net : Network} {u : Url} {route : Route} (h : u.isHttp) :
    net.Final u route ↔ net.answer u = some route ∧ u.redirectTarget? route = none := by
  constructor
  · rintro ⟨hscheme, hfound, hstays⟩
    have hroute := (answer_eq_some_iff h).mpr ⟨hscheme, hfound⟩
    refine ⟨hroute, ?_⟩
    cases htarget : u.redirectTarget? route with
    | none => rfl
    | some v => exact absurd ((redirects_iff h).mpr ⟨route, hroute, htarget⟩) (hstays v)
  · rintro ⟨hroute, htarget⟩
    obtain ⟨hscheme, hfound⟩ := (answer_eq_some_iff h).mp hroute
    refine ⟨hscheme, hfound, fun v hredirects => ?_⟩
    obtain ⟨route', hroute', hv⟩ := (redirects_iff h).mp hredirects
    obtain rfl : route = route' := by
      rw [hroute] at hroute'
      exact Option.some.inj hroute'
    rw [htarget] at hv
    exact absurd hv (by simp)

/-! ### Trails -/

theorem Trail.single {net : Network} {u : Url} (h : u.isHttp) : net.Trail u u [u] where
  head := rfl
  getLast := rfl
  redirects := List.isChain_singleton u
  http := by simpa using h

theorem Trail.cons {net : Network} {u v last : Url} {urls : List Url}
    (h : net.Trail v last urls) (hu : u.isHttp) (hredirects : net.Redirects u v) :
    net.Trail u last (u :: urls) := by
  obtain ⟨hhead, hlast, hchain, hhttp⟩ := h
  cases urls with
  | nil => simp at hhead
  | cons w urls =>
      obtain rfl : w = v := by simpa using hhead
      refine ⟨rfl, ?_, List.isChain_cons_cons.mpr ⟨hredirects, hchain⟩, ?_⟩
      · rwa [List.getLast?_cons_cons]
      · exact List.forall_mem_cons.mpr ⟨hu, hhttp⟩

/-- A trail of more than one URL goes on from the one that its first URL is redirected to. -/
theorem Trail.of_cons_cons {net : Network} {first last u v : Url} {urls : List Url}
    (h : net.Trail first last (u :: v :: urls)) :
    net.Redirects first v ∧ net.Trail v last (v :: urls) := by
  obtain ⟨hhead, hlast, hchain, hhttp⟩ := h
  obtain rfl : u = first := by simpa using hhead
  obtain ⟨hredirects, hrest⟩ := List.isChain_cons_cons.mp hchain
  refine ⟨hredirects, rfl, ?_, hrest, (List.forall_mem_cons.mp hhttp).2⟩
  rwa [List.getLast?_cons_cons] at hlast

/-- Only the last URL of a trail may be beyond a tunnel. -/
theorem Trail.scheme_of_mem_dropLast {net : Network} {first last : Url} {urls : List Url}
    (h : net.Trail first last urls) : ∀ u ∈ urls.dropLast, u.scheme = "http".toList := by
  have hchain := h.redirects
  clear h
  induction urls with
  | nil => simp
  | cons u urls ih =>
      cases urls with
      | nil => simp
      | cons v urls =>
          obtain ⟨hredirects, hrest⟩ := List.isChain_cons_cons.mp hchain
          rw [List.dropLast_cons_cons]
          exact List.forall_mem_cons.mpr ⟨hredirects.1, ih hrest⟩

/-- What has arrived when the response at a URL is the last one. -/
def arrivalAt (u : Url) (route : Route) : Arrival :=
  ⟨u, route.status, route.contentType, route.receive⟩

end Network

/-- What comes after an answer: the end, with the response if it does not redirect, or the URL
that it redirects to. -/
theorem Progress.after_cases (first : Url) (left : Nat) (url : Url) (answer : Option Route) :
    (∃ arrival, after first left url answer = .ended arrival ∧
      ∀ a, arrival = .ok a ↔ ∃ route, answer = some route ∧ url.redirectTarget? route = none ∧
        a = Network.arrivalAt url route) ∨
    ∃ left' route next, left = left' + 1 ∧ answer = some route ∧
      url.redirectTarget? route = some next ∧ next.isHttp ∧
      after first left url answer = .redirected left' next := by
  cases answer with
  | none => exact Or.inl ⟨_, rfl, by simp⟩
  | some route =>
      cases htarget : url.redirectTarget? route with
      | none =>
          refine Or.inl ⟨.ok (Network.arrivalAt url route), ?_, ?_⟩
          · simp only [after, htarget, Network.arrivalAt]
          · simp [htarget, eq_comm]
      | some next =>
          cases left with
          | zero =>
              refine Or.inl ⟨.error (.tooManyRedirects url), ?_, ?_⟩
              · simp only [after, htarget]
              · simp [htarget]
          | succ left =>
              by_cases hhttp : next.isHttp = true
              · refine Or.inr ⟨left, route, next, rfl, rfl, htarget, hhttp, ?_⟩
                simp only [after, htarget, if_pos hhttp]
              · refine Or.inl ⟨.error (.unsupported next), ?_, ?_⟩
                · simp only [after, htarget, if_neg hhttp]
                · simp [htarget]

namespace Exchange

/-- A step of the loop: ask, and then come to the end or go on. -/
theorem follow_eq {m : Type → Type} [Monad m] (ask : Url → m (Option Route)) (first : Url)
    (left : Nat) (url : Url) :
    follow ask first left url = ask url >>= fun answer =>
      match Progress.after first left url answer with
      | .ended arrival => pure ⟨[url.requestLine], arrival⟩
      | .redirected left' next =>
        follow ask first left' next >>= fun e => pure (e.after url.requestLine) := by
  rw [follow]
  refine congrArg (ask url >>= ·) (funext fun answer => ?_)
  split
  · rename_i arrival h
    simp only [h]
  · rename_i left' next h
    simp only [h]

/-- What it comes to to follow redirects where a function answers. -/
def followed (answer : Url → Option Route) (first : Url) (left : Nat) (url : Url) : Exchange :=
  (follow (m := Id) answer first left url).run

theorem followed_eq (answer : Url → Option Route) (first : Url) (left : Nat) (url : Url) :
    followed answer first left url =
      match Progress.after first left url (answer url) with
      | .ended arrival => ⟨[url.requestLine], arrival⟩
      | .redirected left' next => (followed answer first left' next).after url.requestLine := by
  have hanswer : Id.run (answer url) = answer url := rfl
  rw [followed, follow_eq, Id.run_bind, hanswer]
  cases Progress.after first left url (answer url) with
  | ended arrival => rfl
  | redirected left' next => rfl

theorem requested_eq_ok_iff {uri : String} {url : Url} :
    requested uri = .ok url ↔ Url.parse? uri = some url ∧ url.shown.isRequestable = true := by
  rw [requested]
  cases hparse : Url.parse? uri with
  | none => simp
  | some u =>
      by_cases hsend : u.shown.isRequestable = true
      · simp only [if_pos hsend, Except.ok.injEq, Option.some.injEq]
        exact ⟨fun h => ⟨h, h ▸ hsend⟩, fun h => h.1⟩
      · simp only [if_neg hsend, reduceCtorEq, Option.some.injEq, false_iff, not_and]
        exact fun h => h ▸ hsend

end Exchange

namespace Network

/-- Ask a network for a URL, and follow at most `left` redirects. -/
def follow (net : Network) (first : Url) (left : Nat) (url : Url) : Exchange :=
  Exchange.followed net.answer first left url

theorem follow_eq (net : Network) (first : Url) (left : Nat) (url : Url) :
    net.follow first left url =
      match Progress.after first left url (net.answer url) with
      | .ended arrival => ⟨[url.requestLine], arrival⟩
      | .redirected left' next => (net.follow first left' next).after url.requestLine :=
  Exchange.followed_eq net.answer first left url

theorem follow_of_ended {net : Network} {first url : Url} {left : Nat}
    {arrival : Except TransportError Arrival}
    (h : Progress.after first left url (net.answer url) = .ended arrival) :
    net.follow first left url = ⟨[url.requestLine], arrival⟩ := by
  rw [follow_eq, h]

theorem follow_of_redirected {net : Network} {first url next : Url} {left left' : Nat}
    (h : Progress.after first left url (net.answer url) = .redirected left' next) :
    net.follow first left url = (net.follow first left' next).after url.requestLine := by
  rw [follow_eq, h]

/-- Following redirects leaves a trail, and what arrives is the answer to its last request,
unless that redirects. -/
theorem exists_trail_follow (net : Network) (first : Url) (left : Nat) (url : Url)
    (hurl : url.isHttp) :
    ∃ urls last, net.Trail url last urls ∧ urls.length ≤ left + 1 ∧
      (net.follow first left url).requests = urls.map Url.requestLine ∧
      ∀ a, (net.follow first left url).arrival = .ok a ↔
        ∃ route, net.answer last = some route ∧ last.redirectTarget? route = none ∧
          a = arrivalAt last route := by
  induction left generalizing url with
  | zero =>
      obtain ⟨arrival, hended, hok⟩ | ⟨left', _, _, hleft, _⟩ :=
        Progress.after_cases first 0 url (net.answer url)
      · rw [follow_of_ended hended]
        exact ⟨[url], url, Trail.single hurl, Nat.le_refl 1, rfl, hok⟩
      · exact absurd hleft (by simp)
  | succ left ih =>
      obtain ⟨arrival, hended, hok⟩ | ⟨left', route, next, hleft, hroute, htarget, hnext, hafter⟩ :=
        Progress.after_cases first (left + 1) url (net.answer url)
      · rw [follow_of_ended hended]
        exact ⟨[url], url, Trail.single hurl, by simp, rfl, hok⟩
      · obtain rfl : left = left' := Nat.succ.inj hleft
        rw [follow_of_redirected hafter]
        obtain ⟨urls, last, htrail, hlength, hrequests, hok⟩ := ih next hnext
        have hredirects : net.Redirects url next :=
          (redirects_iff hurl).mpr ⟨route, hroute, htarget⟩
        refine ⟨url :: urls, last, htrail.cons hurl hredirects, ?_, ?_, hok⟩
        · simpa using hlength
        · simp only [Exchange.after, hrequests, List.map_cons]

/-- The response that comes of following redirects is the one at the end of the trail, if that
is complete. -/
theorem response_eq_ok_iff {net : Network} {e : Exchange} {last : Url} (hlast : last.isHttp)
    (h : ∀ a, e.arrival = .ok a ↔ ∃ route, net.answer last = some route ∧
      last.redirectTarget? route = none ∧ a = arrivalAt last route) (r : Response) :
    e.response = .ok r ↔
      ∃ route, net.Final last route ∧ route.IsComplete ∧ r = route.response := by
  constructor
  · intro hr
    unfold Exchange.response at hr
    split at hr
    · exact absurd hr (by simp)
    · rename_i a harrival
      obtain ⟨route, hroute, htarget, rfl⟩ := (h a).mp harrival
      refine ⟨route, (final_iff hlast).mpr ⟨hroute, htarget⟩, ?_⟩
      split at hr
      · exact absurd hr (by simp)
      · rename_i body hbody
        obtain ⟨hcomplete, rfl⟩ := Route.receive_eq_ok_iff.mp hbody
        exact ⟨hcomplete, (Except.ok.inj hr).symm⟩
  · rintro ⟨route, hfinal, hcomplete, rfl⟩
    obtain ⟨hroute, htarget⟩ := (final_iff hlast).mp hfinal
    have harrival := (h _).mpr ⟨route, hroute, htarget, rfl⟩
    have hbody := Route.receive_eq_ok_iff.mpr ⟨hcomplete, rfl⟩
    simp only [Exchange.response, harrival, arrivalAt, hbody, Route.response]

/-- Where the network redirects once more than is followed, the limit is reached. -/
theorem follow_of_redirectsTimes {net : Network} (first : Url) {left : Nat} {url : Url}
    (hurl : url.isHttp) (h : net.RedirectsTimes (left + 1) url) :
    (net.follow first left url).requests.length = left + 1 ∧
      ∃ u, (net.follow first left url).arrival = .error (.tooManyRedirects u) := by
  induction left generalizing url with
  | zero =>
      obtain ⟨v, hredirects, -⟩ := h
      obtain ⟨route, hroute, htarget⟩ := (redirects_iff hurl).mp hredirects
      have hended : Progress.after first 0 url (net.answer url) =
          .ended (.error (.tooManyRedirects url)) := by
        simp only [Progress.after, hroute, htarget]
      rw [follow_of_ended hended]
      exact ⟨rfl, url, rfl⟩
  | succ left ih =>
      obtain ⟨v, hredirects, hrest⟩ := h
      obtain ⟨route, hroute, htarget⟩ := (redirects_iff hurl).mp hredirects
      have hv : v.isHttp := by
        obtain ⟨w, hw, -⟩ := hrest
        rw [Url.isHttp, hw.1]
        rfl
      have hafter : Progress.after first (left + 1) url (net.answer url) =
          .redirected left v := by
        simp only [Progress.after, hroute, htarget, if_pos hv]
      rw [follow_of_redirected hafter]
      obtain ⟨hlength, u, harrival⟩ := ih hv hrest
      exact ⟨by simp only [Exchange.after, List.length_cons, hlength], u, harrival⟩

/-- A URL from which a cycle is reached is redirected without end. -/
theorem redirectsTimes_of_cycle {net : Network} {first u : Url}
    (hreach : Relation.ReflTransGen net.Redirects first u)
    (hcycle : Relation.TransGen net.Redirects u u) (n : Nat) : net.RedirectsTimes n first := by
  -- what keeps the walk going is that the cycle stays ahead of it
  have hahead : Relation.TransGen net.Redirects first u := hcycle.trans_right hreach
  clear hreach
  induction n generalizing first with
  | zero => trivial
  | succ n ih =>
      obtain ⟨v, hredirects, hrest⟩ := Relation.TransGen.head'_iff.mp hahead
      exact ⟨v, hredirects, ih (hcycle.trans_right hrest)⟩

/-! ### What a GET comes to -/

/-- A URL is asked for under its text without user and fragment. -/
theorem target_forRequest (u : Url) : u.forRequest.target = u.target := by
  cases u with
  | mk scheme authority path query fragment => cases authority <;> rfl

theorem requestLine_of_http {u : Url} (h : u.scheme = "http".toList) :
    u.requestLine = "GET " ++ u.target := by
  rw [Url.requestLine, Url.isSecure, h]
  rfl

/-- An http URL is asked for by a GET, an https URL by the request for a tunnel. -/
theorem requestLine_of_isHttp {u : Url} (h : u.isHttp = true) :
    u.requestLine = "GET " ++ u.target ∨
      u.scheme = "https".toList ∧ u.requestLine = "CONNECT " ++ u.hostAndPort 443 := by
  rw [Url.isHttp, Bool.or_eq_true, decide_eq_true_eq, decide_eq_true_eq] at h
  obtain h | h := h
  · exact Or.inl (requestLine_of_http h)
  · exact Or.inr ⟨h, by rw [Url.requestLine, Url.isSecure, h]; rfl⟩

theorem isHttp_of_http {u : Url} (h : u.scheme = "http".toList) : u.isHttp = true := by
  rw [Url.isHttp, h]
  rfl

/-- A GET over a network that can be reached asks for its URL and follows redirects. -/
theorem exchange_of_requested (net : Network) {uri : String} {url : Url}
    (h : Exchange.requested uri = .ok url) :
    net.exchange .up uri = net.follow url.shown Exchange.redirectLimit url.forRequest := by
  rw [exchange, Exchange.issue, h]
  rfl

/-- A URI that cannot be asked for is not. -/
theorem exchange_of_requested_error (net : Network) (link : Link) {uri : String}
    {e : TransportError} (h : Exchange.requested uri = .error e) :
    net.exchange link uri = ⟨[], .error e⟩ := by
  cases link with
  | up =>
      rw [exchange, Exchange.issue, h]
      rfl
  | down =>
      rw [exchange, h]
      rfl

/-- What a GET comes to is its response, settled, or what has kept the response from coming. -/
theorem get_of_ok {net : Network} {link : Link} {uri : String} {r : Response}
    (h : (net.exchange link uri).response = .ok r) : (net.get link uri).1 = r.settle := by
  simp only [get, Transport.fetch, transport, h, Except.mapError]

theorem get_of_error {net : Network} {link : Link} {uri : String} {e : TransportError}
    (h : (net.exchange link uri).response = .error e) :
    (net.get link uri).1 = .error (.transport e) := by
  simp only [get, Transport.fetch, transport, h, Except.mapError]

theorem requests_get (net : Network) (link : Link) (uri : String) :
    (net.get link uri).2 = (net.exchange link uri).requests := by
  cases h : (net.exchange link uri).response with
  | ok r => simp only [get, Transport.fetch, transport, h, Except.mapError, List.nil_append]
  | error e => simp only [get, Transport.fetch, transport, h, Except.mapError, List.nil_append]

end Network

/-- Whether a GET has come to a payload, granted or rejected. -/
def Settlement.Carries (s : Settlement) (p : Payload) : Prop :=
  s = .ok p ∨ ∃ status, s = .error (.rejected status p)

/-- A payload is that of the body, and the status of the response settles it. -/
theorem Response.settle_of_carries {r : Response} {p : Payload} (h : r.settle.Carries p) :
    Payload.decode r.contentType r.body = .ok p ∧
      r.settle = if 200 ≤ r.status ∧ r.status ≤ 299 then .ok p
        else .error (.rejected r.status p) := by
  rw [settle] at h ⊢
  cases hdecode : Payload.decode r.contentType r.body with
  | error e => simp [Settlement.Carries, hdecode] at h
  | ok p' =>
      simp only [hdecode, ← isSuccess_iff] at h ⊢
      obtain rfl : p' = p := by
        by_cases hgranted : r.isSuccess = true
        · simpa [Settlement.Carries, hgranted] using h
        · simpa [Settlement.Carries, hgranted] using h
      exact ⟨rfl, rfl⟩

namespace Network

/-- Whether the network redirects once more than is followed, as it does where a cycle is
reached. -/
def RedirectsTooOften (net : Network) (first : Url) : Prop :=
  net.RedirectsTimes 11 first ∨
    ∃ u, Relation.ReflTransGen net.Redirects first u ∧ Relation.TransGen net.Redirects u u

/-- What a GET for a URI that spells an http URL does: it asks for some URLs, of which one is the
last, and comes to what the response there comes to. -/
structure Settles (net : Network) (uri : String) (url : Url) (urls : List Url) (last : Url) :
    Prop where
  trail : net.Trail url.forRequest last urls
  one_le_length : 1 ≤ urls.length
  length_le : urls.length ≤ 11
  requests : (net.get .up uri).2 = urls.map Url.requestLine
  firstLine : (net.get .up uri).2.head? = some ("GET " ++ url.target)
  /-- Only the last URL may be beyond a tunnel. -/
  innerLines : ∀ u ∈ urls.dropLast, u.requestLine = "GET " ++ u.target
  lastLine : last.requestLine = "GET " ++ last.target ∨
    last.scheme = "https".toList ∧ last.requestLine = "CONNECT " ++ last.hostAndPort 443
  /-- A payload, granted or rejected, is that of a last response, settled by its own status. -/
  carries : ∀ p, (net.get .up uri).1.Carries p → ∃ route, net.Final last route ∧
    Payload.decode route.contentType route.text = .ok p ∧
    (net.get .up uri).1 = if 200 ≤ route.status ∧ route.status ≤ 299 then .ok p
      else .error (.rejected route.status p)
  /-- A last response that is complete is settled. -/
  settles : ∀ route, net.Final last route → route.IsComplete →
    (net.get .up uri).1 = route.response.settle
  fails : net.RedirectsTooOften url.forRequest →
    (net.get .up uri).2.length = 11 ∧ ∃ e, (net.get .up uri).1 = .error (.transport e)

/-- **A GET for an http URL that can be asked for leaves a trail of at most eleven URLs, of
which only the last may be beyond a tunnel.  A payload, granted or rejected, is that of the
response at the end of the trail, which redirects no further and is settled by its own status;
and where such a response is complete the GET settles it.  Where an eleventh redirect would be
needed, as on every cycle, the GET fails after eleven requests.** -/
theorem get_settles_end_of_trail (net : Network) {uri : String} {url : Url}
    (hparse : Url.parse? uri = some url) (hscheme : url.scheme = "http".toList)
    (hsend : url.shown.isRequestable = true) : ∃ urls last, net.Settles uri url urls last := by
  have hurl : url.forRequest.isHttp = true := isHttp_of_http hscheme
  have hexchange :=
    exchange_of_requested net (Exchange.requested_eq_ok_iff.mpr ⟨hparse, hsend⟩)
  obtain ⟨urls, last, htrail, hlength, hrequests, harrival⟩ :=
    exists_trail_follow net url.shown Exchange.redirectLimit url.forRequest hurl
  have hmem : last ∈ urls := List.mem_of_getLast? htrail.getLast
  have hlast : last.isHttp = true := htrail.http last hmem
  have hresponse := response_eq_ok_iff hlast harrival
  rw [← hexchange] at hrequests hresponse
  refine ⟨urls, last, ?_⟩
  constructor
  case trail => exact htrail
  case one_le_length => exact List.length_pos_of_mem hmem
  case length_le => exact hlength
  case requests => rw [requests_get, hrequests]
  case firstLine =>
    rw [requests_get, hrequests, List.head?_map, htrail.head, Option.map_some,
      requestLine_of_http (u := url.forRequest) hscheme, target_forRequest]
  case innerLines => exact fun u hu => requestLine_of_http (htrail.scheme_of_mem_dropLast u hu)
  case lastLine => exact requestLine_of_isHttp hlast
  case carries =>
    intro p hp
    cases hr : (net.exchange .up uri).response with
    | error e =>
        rw [get_of_error hr] at hp
        simp [Settlement.Carries] at hp
    | ok r =>
        obtain ⟨route, hfinal, -, rfl⟩ := (hresponse r).mp hr
        rw [get_of_ok hr] at hp ⊢
        exact ⟨route, hfinal, Response.settle_of_carries hp⟩
  case settles =>
    intro route hfinal hcomplete
    exact get_of_ok ((hresponse _).mpr ⟨route, hfinal, hcomplete, rfl⟩)
  case fails =>
    intro hredirected
    have htimes : net.RedirectsTimes (Exchange.redirectLimit + 1) url.forRequest := by
      obtain htimes | ⟨u, hreach, hcycle⟩ := hredirected
      · exact htimes
      · exact redirectsTimes_of_cycle hreach hcycle 11
    obtain ⟨hlimit, u, hfailed⟩ := follow_of_redirectsTimes url.shown hurl htimes
    rw [← hexchange] at hlimit hfailed
    refine ⟨by rw [requests_get]; exact hlimit, .tooManyRedirects u, get_of_error ?_⟩
    simp only [Exchange.response, hfailed]

/-- A URL with a user and a fragment. -/
def loopUrl : Url :=
  ⟨"http".toList, some ⟨⟨"me".toList, []⟩, .name "a.test".toList, none⟩, .segments ["x".toList],
    none, some "f".toList⟩

/-- A network in which that URL redirects to itself. -/
def loopNetwork : Network :=
  [("http://a.test/x", ⟨302, [(Utf8.encode "Location", Utf8.encode "../x#g")], [], .length⟩)]

theorem redirects_loopUrl : loopNetwork.Redirects loopUrl.forRequest loopUrl.forRequest := by
  refine ⟨rfl, ⟨302, [(Utf8.encode "Location", Utf8.encode "../x#g")], [], .length⟩, "../x#g",
    { loopUrl.forRequest with fragment := some "g".toList }, ?_, ?_, ⟨_, rfl, ?_⟩, ?_, ?_, ?_⟩
  all_goals decide +kernel

/-- A GET of a URL that redirects to itself. -/
theorem get_fails_on_loop :
    Url.parse? "http://me@a.test:80/x#f" = some loopUrl ∧ loopUrl.scheme = "http".toList ∧
      loopUrl.shown.isRequestable = true ∧
      (loopNetwork.get .up "http://me@a.test:80/x#f").2.length = 11 ∧
      ∃ e, (loopNetwork.get .up "http://me@a.test:80/x#f").1 = .error (.transport e) := by
  have hparse : Url.parse? "http://me@a.test:80/x#f" = some loopUrl := by decide +kernel
  have hsend : loopUrl.shown.isRequestable = true := by decide +kernel
  obtain ⟨urls, last, hsettles⟩ := get_settles_end_of_trail loopNetwork hparse rfl hsend
  exact ⟨hparse, rfl, hsend, hsettles.fails (Or.inr ⟨_, .refl, .single redirects_loopUrl⟩)⟩

/-- A redirect to a host that no request can name is the last response, and is settled. -/
example :
    let net : Network := [("http://x.test/", ⟨302,
      [(Utf8.encode "Location", Utf8.encode "http://a\x7bb/")], [], .length⟩)]
    (net.get .up "http://x.test/").2 = ["GET http://x.test/"] ∧
      (net.getAll .up ["http://x.test/"]).1.exitCode = 1 := by decide +kernel

/-- A URL with a host that no request can name is never asked for. -/
theorem requests_of_unsendable_host :
    ∃ url, Url.parse? "http://a\x7bb/" = some url ∧ url.scheme = "http".toList ∧
      (Network.get [] .up "http://a\x7bb/").2 = [] := by
  refine ⟨⟨"http".toList, some ⟨default, .name ['a', '\x7b', 'b'], none⟩, .segments [[]], none,
    none⟩, ?_, rfl, ?_⟩
  · decide +kernel
  · decide +kernel

end Network
end HttpGet
