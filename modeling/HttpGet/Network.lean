/-
GETs over a network.

A GET asks for its URL, and follows redirects, at most ten, until a response comes that is
none; that response is the answer.  Whoever answers, the loop is the same: `Exchange.issue`
is a GET over any function that answers requests, whatever effects that has.

A network answers by its routes, which tell what the server behind a URL answers.  Over a
secure connection only the request for a tunnel is seen, and it is refused.  The link to the
network may be down, and then no request leaves.
-/
import HttpGet.Batch
import HttpGet.Url.Parser
import HttpGet.Url.Request

namespace HttpGet

/-- How the end of a body is told: by its length, by the end of the connection, or in
chunks; a short body ends before the length that was announced. -/
inductive Framing where
  | length
  | close
  | chunked
  | short
deriving DecidableEq, Repr

/-- What is behind a URL. -/
structure Route where
  status : Nat
  headers : List (List UInt8 × List UInt8)
  body : List UInt8
  framing : Framing
deriving DecidableEq, Repr

/-- The routes of a network, by what a request asks for. -/
abbrev Network := List (String × Route)

/-- Whether requests reach the network. -/
inductive Link where
  | up
  | down
deriving DecidableEq, Repr

namespace Route

/-- White space around the value of a header. -/
def isHeaderSpace (b : UInt8) : Bool := b = 0x20 || b = 0x09

/-- The value of a header without white space around it. -/
def trim (value : List UInt8) : List UInt8 :=
  ((value.dropWhile isHeaderSpace).reverse.dropWhile isHeaderSpace).reverse

/-- A byte in lower case, if it is an ASCII letter. -/
def lower (b : UInt8) : UInt8 := if 0x41 ≤ b && b ≤ 0x5A then b + 0x20 else b

/-- The value of the first header of a name, which is given in lower case. -/
def header? (name : String) (r : Route) : Option (List UInt8) :=
  (r.headers.find? fun h => h.1.map lower = Utf8.encode name).map fun h => trim h.2

/-- The content type of a response. -/
def contentType (r : Route) : Option String := (r.header? "content-type").map Utf8.decodeLossy

/-- Whether a response has a body. -/
def hasBody (r : Route) : Bool := r.status ≠ 204 && r.status ≠ 304

/-- The body of a response, once it is complete. -/
def receive (r : Route) : Except TransportError String :=
  if r.hasBody then
    if r.framing = .short then .error .incompleteBody else .ok (Utf8.decodeLossy r.body)
  else .ok ""

/-- The statuses that redirect. -/
def redirects (r : Route) : Bool := [301, 302, 303, 307, 308].contains r.status

end Route

namespace Url

/-- The URL to which a response redirects.  A location that no request can name is not
followed. -/
def redirectTarget? (u : Url) (r : Route) : Option Url :=
  if r.redirects then do
    let location ← Utf8.decode? (← r.header? "location")
    let target ← u.join? location
    if target.isNameable then some target.forRequest else none
  else none

end Url

/-- A response whose head has arrived: the URL it came from, the head, and the body, unless
it will not be complete. -/
structure Arrival where
  url : Url
  status : Nat
  contentType : Option String
  body : Except TransportError String
deriving Repr

/-- What a GET has asked for, in order, and what has arrived. -/
structure Exchange where
  requests : List String
  arrival : Except TransportError Arrival
deriving Repr

namespace Exchange

/-- The response of an exchange. -/
def response (e : Exchange) : Except TransportError Response :=
  match e.arrival with
  | .error error => .error error
  | .ok a =>
    match a.body with
    | .error error => .error error
    | .ok body => .ok ⟨a.status, a.contentType, body⟩

/-- An exchange after another request. -/
def after (request : String) (e : Exchange) : Exchange :=
  { e with requests := request :: e.requests }

end Exchange

/-- What is to be done after an answer: the GET has come to its end, or another URL is to be
asked for, with so many redirects left. -/
inductive Progress where
  | ended (arrival : Except TransportError Arrival)
  | redirected (left : Nat) (url : Url)
deriving Repr

namespace Progress

/-- What is to be done after the answer to a request for a URL, when at most `left` redirects
may follow; `first` is the URL of the GET. -/
def after (first : Url) (left : Nat) (url : Url) : (answer : Option Route) → Progress
  | none => .ended (.error (.unanswered first))
  | some route =>
    match url.redirectTarget? route with
    | none => .ended (.ok ⟨url, route.status, route.contentType, route.receive⟩)
    | some next =>
      match left with
      | 0 => .ended (.error (.tooManyRedirects url))
      | left + 1 =>
        if next.isHttp then .redirected left next else .ended (.error (.unsupported next))

/-- Redirects run out. -/
theorem left_lt_of_after {first url next : Url} {left left' : Nat} {answer : Option Route}
    (h : after first left url answer = .redirected left' next) : left' < left := by
  unfold after at h
  split at h
  · simp at h
  · split at h
    · simp at h
    · split at h
      · simp at h
      · split at h
        · simp only [redirected.injEq] at h
          omega
        · simp at h

end Progress

namespace Exchange

/-- A GET may be redirected so often. -/
def redirectLimit : Nat := 10

/-- The URL that a GET for a URI asks for.  Its user is taken off before it is asked whether
the URL can be. -/
def requested (uri : String) : Except TransportError Url :=
  match Url.parse? uri with
  | none => .error .notUrl
  | some url => if url.shown.isRequestable then .ok url else .error (.unsupported url.shown)

variable {m : Type → Type} [Monad m]

/-- Ask for a URL, and follow at most `left` redirects; `first` is the URL of the GET. -/
def follow (ask : Url → m (Option Route)) (first : Url) (left : Nat) (url : Url) :
    m Exchange := do
  let answer ← ask url
  match h : Progress.after first left url answer with
  | .ended arrival => return ⟨[url.requestLine], arrival⟩
  | .redirected left' next =>
    have : left' < left := Progress.left_lt_of_after h
    return (← follow ask first left' next).after url.requestLine
termination_by left

/-- Issue a GET for a URI. -/
def issue (ask : Url → m (Option Route)) (uri : String) : m Exchange :=
  match requested uri with
  | .error e => return ⟨[], .error e⟩
  | .ok url => follow ask url.shown redirectLimit url.forRequest

end Exchange

namespace Network

/-- The answer to a request for a URL.  There is none through a tunnel. -/
def answer (net : Network) (url : Url) : Option Route :=
  if url.isSecure then none else net.lookup url.target

/-- Issue a GET for a URI. -/
def exchange (net : Network) (link : Link) (uri : String) : Exchange :=
  match link with
  | .up => (Exchange.issue (m := Id) net.answer uri).run
  | .down => ⟨[], (Exchange.requested uri).bind fun url => .error (.unanswered url.shown)⟩

/-- A network as a transport, which keeps the requests that it has seen.  Here nobody brings anything
from one GET to the next; a client over servers does. -/
def transport (net : Network) (link : Link) : Transport (List String) GetError where
  get seen uri :=
    let e := net.exchange link uri
    (e.response.mapError .transport, seen ++ e.requests)

/-- GET a URI: what it comes to, and the requests. -/
def get (net : Network) (link : Link) (uri : String) : Settlement × List String :=
  (net.transport link).fetch [] uri

/-- GET the URIs of a batch: what they come to, and the requests. -/
def getAll (net : Network) (link : Link) (uris : List String) : Batch × List String :=
  (net.transport link).fetchAll [] uris

end Network
end HttpGet
