/-
Why a text is not JSON, and where.

A reader that gives up keeps the text it has not read, and how many bytes of that text
it had already looked at: a reader that peeks at a byte it cannot use has seen one byte
beyond what it read.  `Failure.position` turns this into a line and a column of the
whole text.
-/
import HttpGet.Text.Position

namespace HttpGet.Json

/-- Why reading a JSON text fails.  The last cause is a value of the wrong shape. -/
inductive Cause where
  | endInValue
  | endInList
  | endInObject
  | endInString
  | colonExpected
  | listCommaOrEndExpected
  | objectCommaOrEndExpected
  | valueExpected
  | wordExpected
  | keyExpected
  | controlCharacter
  | invalidEscape
  | invalidNumber
  | numberOutOfRange
  | loneSurrogate
  | secondSurrogateExpected
  | trailingComma
  | trailingCharacters
  | tooDeep
  | mismatch (message : String)
deriving DecidableEq, Repr

/-- The wording of a cause. -/
def Cause.message : Cause → String
  | endInValue => "EOF while parsing a value"
  | endInList => "EOF while parsing a list"
  | endInObject => "EOF while parsing an object"
  | endInString => "EOF while parsing a string"
  | colonExpected => "expected `:`"
  | listCommaOrEndExpected => "expected `,` or `]`"
  | objectCommaOrEndExpected => "expected `,` or `\x7d`"
  | valueExpected => "expected value"
  | wordExpected => "expected ident"
  | keyExpected => "key must be a string"
  | controlCharacter => "control character (\\u0000-\\u001F) found while parsing a string"
  | invalidEscape => "invalid escape"
  | invalidNumber => "invalid number"
  | numberOutOfRange => "number out of range"
  | loneSurrogate => "lone leading surrogate in hex escape"
  | secondSurrogateExpected => "unexpected end of hex escape"
  | trailingComma => "trailing comma"
  | trailingCharacters => "trailing characters"
  | tooDeep => "recursion limit exceeded"
  | mismatch message => message

/-- A reader's failure: the cause, the text it had not read, and how many bytes of it it
had looked at. -/
structure Failure where
  cause : Cause
  rest : List Char
  beyond : Nat
deriving DecidableEq, Repr

namespace Failure

/-- A failure with nothing looked at beyond what was read. -/
def here (cause : Cause) (rest : List Char) : Failure := ⟨cause, rest, 0⟩

/-- A failure at a byte that was looked at and not read, or at the end. -/
def ahead (cause : Cause) (rest : List Char) : Failure :=
  ⟨cause, rest, if rest.isEmpty then 0 else 1⟩

/-- The place in the whole text to which a failure's message points. -/
def position (text : List Char) (f : Failure) : Position :=
  Position.atOffset text (Position.bytes text - Position.bytes f.rest + f.beyond)

end Failure

/-- A cause with its place, as it is reported. -/
structure Error where
  cause : Cause
  position : Position
deriving DecidableEq, Repr

/-- The wording of an error. -/
def Error.message (e : Error) : String :=
  e.cause.message ++ " at line " ++ toString e.position.line ++
    " column " ++ toString e.position.column

/-- The error of a failure in a text. -/
def Failure.report (text : List Char) (f : Failure) : Error := ⟨f.cause, f.position text⟩

/-- What reading yields: a value and the text after it, or a failure. -/
abbrev Scan (α : Type) := Except Failure (α × List Char)

/-- The text after white space; JSON knows four blanks. -/
def isSpace (c : Char) : Bool := c = ' ' || c = '\n' || c = '\t' || c = '\r'

/-- Skip white space. -/
def skipSpace (s : List Char) : List Char := s.dropWhile isSpace

/-- Read the letters of a word. -/
def word : List Char → List Char → Scan Unit
  | [], s => .ok ((), s)
  | _ :: _, [] => .error (.here .endInValue [])
  | w :: ws, c :: rest =>
    if c = w then word ws rest else .error ⟨.wordExpected, c :: rest, 1⟩

end HttpGet.Json
