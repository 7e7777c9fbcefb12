/-
Log events and their lines.

An event has a level, a target, which names the part of the program that it comes from, a
message and fields.  Its line comes in two forms.  The compact form is meant for reading:
what an event holds is written after its message, texts either quoted or as they are.  The
JSON form is an object on one line, whatever the event holds.
-/
import HttpGet.Json.Typed
import HttpGet.Text.Quoted

namespace HttpGet

/-- The levels of events, from the gravest to the most detailed. -/
inductive Level where
  | error
  | warn
  | info
  | debug
  | trace
deriving DecidableEq, Repr

namespace Level

/-- The place of a level, from the gravest on. -/
def rank : Level → Nat
  | error => 1
  | warn => 2
  | info => 3
  | debug => 4
  | trace => 5

/-- The name of a level. -/
def name : Level → String
  | error => "ERROR"
  | warn => "WARN"
  | info => "INFO"
  | debug => "DEBUG"
  | trace => "TRACE"

end Level

namespace Log

/-- The value of a field: a text that the compact form quotes, a text that it does not, or
a number. -/
inductive Value where
  | quoted (s : String)
  | plain (s : String)
  | number (n : Nat)
deriving DecidableEq, Repr

/-- A log event. -/
structure Event where
  level : Level
  target : String
  message : String
  fields : List (String × Value)
deriving DecidableEq, Repr

/-! ### The compact form -/

/-- How the compact form writes a character of a message: characters that control a
terminal are escaped. -/
def escapeControl (c : Char) : List Char :=
  if c ∈ ['\x07', '\x08', '\x0c', '\x1b', '\x7f'] then
    ['\\', 'x', hexDigit (c.toNat / 16), hexDigit (c.toNat % 16)]
  else if 0x80 ≤ c.toNat && c.toNat ≤ 0x9F then ['\\', 'u', '{'] ++ hexDigits c.toNat ++ ['}']
  else [c]

/-- The compact text of a value. -/
def Value.compact : Value → String
  | quoted s => Quoted.encode s
  | plain s => s
  | number n => toString n

/-- The compact line of an event: the levels are set flush right. -/
def Event.compact (time : String) (e : Event) : String :=
  time ++ " " ++ "".pushn ' ' (5 - e.level.name.length) ++ e.level.name ++ " " ++
    String.ofList (e.message.toList.flatMap escapeControl) ++
    String.join (e.fields.map fun f => " " ++ f.1 ++ "=" ++ f.2.compact) ++ "\n"

/-! ### The JSON form -/

/-- The JSON value of a value. -/
def Value.toJson : Value → Json
  | quoted s => .text s
  | plain s => .text s
  | number n => .ofInt n

/-- The JSON form of an event. -/
def Event.toJson (time : String) (e : Event) : Json :=
  .object [("timestamp", .text time), ("level", .text e.level.name),
    ("fields", .object (("message", .text e.message) :: e.fields.map fun f => (f.1, f.2.toJson)))]

/-- The JSON line of an event. -/
def Event.json (time : String) (e : Event) : String := (e.toJson time).toCompactString ++ "\n"

end Log
end HttpGet
