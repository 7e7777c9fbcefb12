/-
Why a GET, or the configuration for it, fails.

A response that does not grant its request is a failure that carries the payload.  The
exit code ranks the causes: a rejection is 1, a body that is not the JSON it should be is
3, and everything else is 2.
-/
import HttpGet.Toml.Excerpt
import HttpGet.Transport

namespace HttpGet

/-- Why a GET fails. -/
inductive GetError where
  /-- The response has come, and does not grant the request. -/
  | rejected (status : Nat) (payload : Payload)
  /-- The body is announced as JSON and is not. -/
  | undecodable (error : Json.Error)
  /-- There is no response. -/
  | transport (error : TransportError)
  /-- The configuration file does not hold settings. -/
  | toml (error : Toml.Error)
  /-- The configuration as a whole is unusable. -/
  | configuration (message : String)
  /-- A setting has an unusable value. -/
  | invalidValue (field value reason : String)
deriving Repr

namespace GetError

/-- The wording of an error. -/
def message : GetError → String
  | rejected status payload =>
    "Request rejected with status " ++ toString status ++ ": " ++ payload.compact
  | undecodable error => "Response decode failed: " ++ error.message
  | transport error => "HTTP transport failed: " ++ error.message
  | toml error => "TOML parse error: " ++ error.message
  | configuration message => "Configuration error: " ++ message
  | invalidValue field value reason =>
    "Invalid value for '" ++ field ++ "' (" ++ value ++ "): " ++ reason

/-- The exit code of an error. -/
def exitCode : GetError → Nat
  | rejected .. => 1
  | undecodable _ => 3
  | _ => 2

/-- Whether an error is a response that does not grant its request. -/
def isRejection : GetError → Bool
  | rejected .. => true
  | _ => false

end GetError

/-- What a GET comes to. -/
abbrev Settlement := Except GetError Payload

/-- Settle a response: it resolves with its payload or is rejected with it.  A body that
cannot be decoded is an error of its own, whatever the status. -/
def Response.settle (r : Response) : Settlement :=
  match Payload.decode r.contentType r.body with
  | .error e => .error (.undecodable e)
  | .ok payload => if r.isSuccess then .ok payload else .error (.rejected r.status payload)

end HttpGet
