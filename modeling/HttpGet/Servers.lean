/-
Servers.

What a server does is described by its replies: the bytes that it sends in answer to a request,
and whether it closes the connection after them.  A client over such servers is a transport,
whose state is what the client keeps from one GET to the next.
-/
import HttpGet.Client

namespace HttpGet

/-- What a server sends in answer to a request, and whether it closes the connection then. -/
structure Reply where
  bytes : List UInt8
  closes : Bool
deriving DecidableEq, Repr

/-- The replies of servers, by what a request asks for. -/
abbrev Servers := List (String × Reply)

namespace Servers

/-- The reply to a request.  A server that has none closes the connection. -/
def reply (s : Servers) (target : String) : Reply := (s.lookup target).getD ⟨[], true⟩

/-- Servers as what carries requests: the server that answers is the one to which a connection
leads, and what is there to be read begins with what was there before. -/
def carrier (s : Servers) : Carrier Id Unit where
  connect _ := some ()
  send c url :=
    let reply := s.reply (c.origin ++ url.pathAndQuery)
    (c.unread ++ reply.bytes, reply.closes)

/-- A client over servers as a transport, which also keeps the requests that it has made. -/
def transport (s : Servers) (pooling : Pooling Unit) :
    Transport (Client Unit × List String) GetError where
  get := fun (client, seen) uri =>
    let (e, client) := ((Client.exchange s.carrier pooling uri).run client).run
    (e.response.mapError .transport, client, seen ++ e.requests)

/-- GET a URI with a client of its own: what it comes to, and the requests. -/
def get (s : Servers) (pooling : Pooling Unit) (uri : String) : Settlement × List String :=
  let (settlement, _, requests) := (s.transport pooling).fetch (default, []) uri
  (settlement, requests)

/-- GET the URIs of a batch with one client: what they come to, and the requests. -/
def getAll (s : Servers) (pooling : Pooling Unit) (uris : List String) : Batch × List String :=
  let (batch, _, requests) := (s.transport pooling).fetchAll (default, []) uris
  (batch, requests)

end Servers
end HttpGet
