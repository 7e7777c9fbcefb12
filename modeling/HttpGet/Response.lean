/-
Responses and their payloads.

A response is what a request has brought once its whole body is there.  Its payload is a
JSON value if its content type says so, and the text of the body otherwise; the status has
no part in that.
-/
import HttpGet.Json.Parser
import HttpGet.Json.Typed
import HttpGet.Text.Search

namespace HttpGet

/-- A response whose body is complete. -/
structure Response where
  status : Nat
  contentType : Option String
  body : String
deriving DecidableEq, Repr

/-- Whether a response grants its request. -/
def Response.isSuccess (r : Response) : Bool := 200 ≤ r.status && r.status < 300

theorem Response.isSuccess_iff {r : Response} :
    r.isSuccess = true ↔ 200 ≤ r.status ∧ r.status ≤ 299 := by
  rw [isSuccess, Bool.and_eq_true, decide_eq_true_eq, decide_eq_true_eq]
  omega

/-- What a response carries: a JSON value or a text. -/
inductive Payload where
  | json (value : Json)
  | text (s : String)
deriving Repr

namespace Payload

/-- What a content type has to contain to announce JSON. -/
def jsonMediaType : String := "application/json"

/-- Whether a content type announces JSON: it contains the media type, in lower case,
anywhere.  An absent content type does not. -/
def isJsonContent : Option String → Bool
  | none => false
  | some contentType => occursIn jsonMediaType.toList contentType.toList

/-- The payload of a body. -/
def decode (contentType : Option String) (body : String) : Except Json.Error Payload :=
  if isJsonContent contentType then (Json.parse body).map .json else .ok (.text body)

/-- The text of a payload, JSON in the compact form. -/
def compact : Payload → String
  | json v => v.toCompactString
  | text s => s

/-- The text of a payload, JSON in the pretty form. -/
def pretty : Payload → String
  | json v => v.toPrettyString
  | text s => s

/-- The text of a payload in the form that is asked for. -/
def render (pretty : Bool) (p : Payload) : String := if pretty then p.pretty else p.compact

/-- The JSON value of a payload; a text is a JSON string. -/
def value : Payload → Json
  | json v => v
  | text s => .text s

/-- Read a payload as a value of a type. -/
def read {α : Type} (c : Codec α) (p : Payload) : Except Mismatch α := c.decode p.value

end Payload
end HttpGet
