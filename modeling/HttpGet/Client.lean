/-
Clients that keep connections.

A client sends requests over connections.  Once a response has been read, the connection can
carry another request to the same server, if neither side closes it and nothing has come after
the response.  The client keeps such connections, and the next request takes one of them that
leads to its server, before a new one is opened.

What carries bytes is a parameter, so that the same client runs over sockets and over servers
that are only described.  How long connections are kept, and which of them is preferred, is a
parameter too.
-/
import HttpGet.Wire

namespace HttpGet

/-- A connection to where a URL is, over a channel.  `unread` has come over it and belongs to
no response that has been read. -/
structure Connection (κ : Type) where
  origin : String
  channel : κ
  unread : List UInt8
deriving DecidableEq, Repr

/-- The response that some bytes spell, which have come over a connection, and the connection, if
it can be kept. -/
def Connection.read {κ : Type} (c : Connection κ) (bytes : List UInt8) (closed : Bool) :
    Option Route × Option (Connection κ) :=
  match Wire.message? bytes with
  | none => (none, none)
  | some message =>
    let reusable := message.persists && !closed && message.rest.isEmpty
    (some message.route, if reusable then some { c with unread := message.rest } else none)

/-- What carries requests. -/
structure Carrier (m : Type → Type) (κ : Type) where
  /-- Open a channel to the server of a URL. -/
  connect : Url → m (Option κ)
  /-- Send the request for a URL over a connection.  This gives the bytes that are there to be
  read then, and whether the connection has been closed after them. -/
  send : Connection κ → Url → m (List UInt8 × Bool)

/-- Which connections are still kept when the request of a number is made, the preferred ones
first. -/
structure Pooling (κ : Type) where
  sift : Nat → List (Connection κ) → List (Connection κ)
  sift_subset (asked : Nat) (kept : List (Connection κ)) : sift asked kept ⊆ kept

/-- A client: the connections that it keeps, and how many requests it has made. -/
structure Client (κ : Type) where
  kept : List (Connection κ)
  asked : Nat
deriving Repr

namespace Client

variable {κ : Type}

/-- A client that has made no request. -/
instance : Inhabited (Client κ) := ⟨⟨[], 0⟩⟩

/-- All connections are kept, the latest first. -/
instance : Inhabited (Pooling κ) := ⟨⟨fun _ kept => kept, fun _ _ _ h => h⟩⟩

/-- The first connection that leads somewhere, and the others. -/
def take? (origin : String) :
    List (Connection κ) → Option (Connection κ × List (Connection κ))
  | [] => none
  | c :: cs =>
    if c.origin = origin then some (c, cs)
    else (take? origin cs).map fun (d, ds) => (d, c :: ds)

variable {m : Type → Type} [Monad m] (carrier : Carrier m κ)

/-- A connection to the server of a URL, one that is kept or a new one, and the other ones. -/
def connection (url : Url) (kept : List (Connection κ)) :
    m (Option (Connection κ) × List (Connection κ)) := do
  match take? url.origin kept with
  | some (c, others) => return (some c, others)
  | none => return ((← carrier.connect url).map fun channel => ⟨url.origin, channel, []⟩, kept)

/-- The answer to a request for a URL.  There is none through a tunnel. -/
def ask (pooling : Pooling κ) (url : Url) : StateT (Client κ) m (Option Route) := fun client => do
  if url.isSecure then return (none, client)
  match ← connection carrier url (pooling.sift client.asked client.kept) with
  | (none, others) => return (none, ⟨others, client.asked + 1⟩)
  | (some c, others) =>
    let (bytes, closed) ← carrier.send c url
    let (answer, again?) := c.read bytes closed
    return (answer, ⟨again?.toList ++ others, client.asked + 1⟩)

/-- Issue a GET for a URI. -/
def exchange (pooling : Pooling κ) (uri : String) : StateT (Client κ) m Exchange :=
  Exchange.issue (ask carrier pooling) uri

end Client
end HttpGet
