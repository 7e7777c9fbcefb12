/-
Transports.

A transport answers requests; what it answers may depend on what it was asked before, so it
carries a state.  A request that brings no response fails, for one of the causes of a
`TransportError` or one that the transport has of its own.
-/
import HttpGet.Response
import HttpGet.Url.Basic

namespace HttpGet

/-- Why a request brings no response. -/
inductive TransportError where
  /-- The text is no URL with a host. -/
  | notUrl
  /-- A URL that cannot be asked for, because of its scheme or its host. -/
  | unsupported (url : Url)
  /-- There is no answer. -/
  | unanswered (url : Url)
  /-- There are too many redirects; the last one is that of the URL. -/
  | tooManyRedirects (url : Url)
  /-- The body ends before it is complete. -/
  | incompleteBody
deriving DecidableEq, Repr

/-- The wording of a transport error. -/
def TransportError.message : TransportError → String
  | notUrl => "builder error"
  | unsupported url => "builder error for url (" ++ url.write ++ ")"
  | unanswered url => "error sending request for url (" ++ url.write ++ ")"
  | tooManyRedirects url => "error following redirect for url (" ++ url.write ++ ")"
  | incompleteBody => "error decoding response body"

/-- A transport with states `σ` and errors `ε`: the answer to a request, and the state it
leaves. -/
structure Transport (σ ε : Type) where
  get : σ → String → Except ε Response × σ

end HttpGet
