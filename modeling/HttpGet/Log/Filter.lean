/-
Which events are logged.

A filter is a list of directives with commas between them.  A directive sets how detailed
the events of some targets may be: `info` is for all targets, `name=info` for those that
begin with the name, and a name alone lets everything of them pass.  A field in brackets
restricts a directive to events that have it.  Of the directives that are about an event
the most specific decides: the one with the longest target, and then one with a field; of
two that differ only in the level, the later.  An event that no directive is about is not
logged.

A directive that names a span, or asks for the value of a field, is about spans, and no
event is inside one.

Blanks around a directive do not count where its marks are looked for.  But its parts are
then cut out of the text with the blanks, at the distances that the marks have without them,
and the last part takes the blanks after it along.  So blanks rarely leave a directive what
it was without them.
-/
import HttpGet.Log.Event
import HttpGet.Text.Blank
import HttpGet.Text.Pattern
import HttpGet.Text.Position
import HttpGet.Text.Split

namespace HttpGet.Log

/-- A directive: the target it is about, the field an event has to have, and the rank of the
most detailed level that passes. -/
structure Directive where
  target : Option String
  field : Option String
  rank : Nat
deriving DecidableEq, Repr

/-- The directives of a filter, from the most specific on. -/
abbrev Filter := List Directive

/-- The levels by name. -/
def levelNames : List (String × Nat) :=
  [("error", 1), ("warn", 2), ("info", 3), ("debug", 4), ("trace", 5), ("off", 0)]

/-- The rank that a level's name or number gives; no level at all is that of errors. -/
def rank? (text : List Char) : Option Nat :=
  let digits := if text.head? = some '+' then text.tail else text
  if !digits.isEmpty && digits.all Char.isDigit then
    let n := Nat.ofDigitChars 10 digits 0
    if n ≤ 5 then some n else none
  else if text.isEmpty then some 1
  else levelNames.lookup (String.ofList (text.map Char.toLower))

namespace Directive

/-- What a directive may be about: events, or spans, which no event is in. -/
inductive Reading where
  | events (d : Directive)
  | spans
deriving DecidableEq, Repr

/-- The directive, if it is about events. -/
def Reading.forEvents? : Reading → Option Directive
  | .events d => some d
  | .spans => none

/-- Characters that begin a name. -/
def beginsName (c : Char) : Bool := isAlphanumeric c || c = '-' || c = ':' || c = '_'

/-- A field that a directive asks for, and whether it asks for a value of it too. -/
structure FieldClause where
  name : String
  hasValue : Bool
deriving DecidableEq, Repr

/-- Whether a text is a decimal number: a sign, and digits with a point and an exponent, or a
word for infinity or for not a number. -/
def isNumber (text : List Char) : Bool :=
  let unsigned (s : List Char) : List Char :=
    if s.head? = some '+' || s.head? = some '-' then s.tail else s
  let body := (unsigned text).map Char.toLower
  let (mantissa, exponent?) := cutAt (· = 'e') body
  let (whole, fraction?) := cutAt (· = '.') mantissa
  let digits := whole ++ fraction?.getD []
  ["inf", "infinity", "nan"].contains (String.ofList body) ||
    (!digits.isEmpty && digits.all Char.isDigit &&
      match exponent? with
      | none => true
      | some exponent => !(unsigned exponent).isEmpty && (unsigned exponent).all Char.isDigit)

/-- Read a field: its name, and a number or a regular expression for its value.  What
follows a second equals sign is of no account. -/
def FieldClause.parse? (text : List Char) : Option FieldClause :=
  if text.isEmpty then none
  else match splitWhere (· = '=') text with
    | [] => none
    | [name] => some ⟨String.ofList name, false⟩
    | name :: value :: _ =>
      if isNumber value || Pattern.isValid value then some ⟨String.ofList name, true⟩ else none

/-- The rank of a level that may be left out. -/
def rankOrAll? (level : List Char) : Option Nat :=
  if level.isEmpty then some 5 else rank? level

/-- What stands in a text from an offset on. -/
def partFrom? (text : List Char) (offset : Nat) : Option (List Char) :=
  (Position.splitAt? text offset).map (·.2)

/-- The rank that a directive ends with, after its brackets.  Here and below, the last
argument is what is left of the text without blanks around it, and `offset` where that
begins. -/
def rankAfter? (text : List Char) (offset : Nat) : List Char → Option Nat
  | [] => some 5
  | '=' :: _ => (partFrom? text (offset + 1)).bind rankOrAll?
  | _ => none

/-- The rest of a directive after an opening bracket: a span, a field, and a level. -/
def bracketed? (text : List Char) (target : Option String) (offset : Nat) (s : List Char) :
    Option Reading := do
  let isMark (c : Char) : Bool := c = ']' || c = '{'
  let spanEnd := offset + Position.bytes (s.takeWhile (!isMark ·))
  match s.dropWhile (!isMark ·) with
  | ']' :: rest =>
    let _ ← rankAfter? text (spanEnd + 1) rest
    return .spans
  | '{' :: rest =>
    let fieldEnd := spanEnd + 1 + Position.bytes (rest.takeWhile (· ≠ '}'))
    match rest.dropWhile (· ≠ '}') with
    | '}' :: ']' :: after =>
      let span ← Position.slice? text offset spanEnd
      let field ← (Position.slice? text (spanEnd + 1) fieldEnd).bind FieldClause.parse?
      let rank ← rankAfter? text (fieldEnd + 2) after
      return if span.isEmpty && !field.hasValue then .events ⟨target, some field.name, rank⟩
        else .spans
    | _ => none
  | _ => none

/-- Read a directive that begins with a name. -/
def named? (text s : List Char) : Option Reading := do
  let isMark (c : Char) : Bool := c = '=' || c = '['
  let nameEnd := Position.bytes (s.takeWhile (!isMark ·))
  match s.dropWhile (!isMark ·) with
  | [] =>
    match rank? text with
    | some rank => return .events ⟨none, none, rank⟩
    | none => return .events ⟨some (String.ofList text), none, 5⟩
  | mark :: rest =>
    let target := String.ofList (← Position.slice? text 0 nameEnd)
    if mark = '[' then bracketed? text (some target) (nameEnd + 1) rest
    else
      let rank ← rankAfter? text nameEnd (mark :: rest)
      return .events ⟨some target, none, rank⟩

/-- Read a directive. -/
def parse? (text : List Char) : Option Reading :=
  match trimBlank text with
  | [] => none
  | '[' :: rest => bracketed? text none 1 rest
  | c :: rest => if beginsName c then named? text (c :: rest) else none

/-- The length of a directive's target; no target is shorter than an empty one. -/
def targetLength (d : Directive) : Nat := (d.target.map (·.utf8ByteSize + 1)).getD 0

/-- Whether a directive is more specific than another; of two that differ in the field, the
one whose field comes later in the order of texts. -/
def moreSpecific (a b : Directive) : Bool :=
  b.targetLength < a.targetLength ||
    (a.targetLength = b.targetLength &&
      match a.field, b.field with
      | none, _ => false
      | some _, none => true
      | some f, some g => g < f)

/-- Whether two directives are about the same events. -/
def sameScope (a b : Directive) : Bool := a.target = b.target && a.field = b.field

/-- Whether an event has a field. -/
def hasField (e : Event) (name : String) : Bool :=
  name = "message" || e.fields.any (·.1 = name)

/-- Whether a directive is about an event. -/
def isAbout (d : Directive) (e : Event) : Bool :=
  (match d.target with
    | none => true
    | some target => target.toList.isPrefixOf e.target.toList) &&
    (match d.field with
    | none => true
    | some field => hasField e field)

end Directive

namespace Filter

/-- Insert a directive before those that are less specific, and in the place of one that is
about the same events. -/
def insert (d : Directive) : Filter → Filter
  | [] => [d]
  | first :: rest =>
    if d.sameScope first then d :: rest
    else if d.moreSpecific first then d :: first :: rest
    else first :: insert d rest

/-- The filter of directives in the order in which they are written. -/
def ofDirectives (directives : List Directive) : Filter :=
  directives.foldl (fun f d => insert d f) []

/-- Read a filter. -/
def parse? (text : String) : Option Filter := do
  let parts := (splitWhere (· = ',') text.toList).filter (!·.isEmpty)
  let readings ← parts.mapM Directive.parse?
  return ofDirectives (readings.filterMap Directive.Reading.forEvents?)

/-- Whether an event passes a filter. -/
def passes (f : Filter) (e : Event) : Bool :=
  match f.find? (·.isAbout e) with
  | some d => e.level.rank ≤ d.rank
  | none => false

/-- The filter without an instruction from the environment. -/
def standard (verbose : Bool) : Filter :=
  if verbose then ofDirectives [⟨some "fetch_get", none, 4⟩, ⟨none, none, 3⟩]
  else ofDirectives [⟨some "fetch_get", none, 3⟩]

/-- The filter of the environment's instruction, or the standard one if there is none that
can be read. -/
def choose (instruction : Option String) (verbose : Bool) : Filter :=
  ((instruction.bind parse?).getD (standard verbose))

end Filter
end HttpGet.Log
