/-
Reading a JSON text.

`readValue` reads one value; the depth that is left bounds how far lists and objects
nest, and with it the recursion.  `parse` reads a whole text: one value with white space
around it and nothing else.

The two loops take the number of characters left as fuel.  Every round reads at least
one character, so the fuel never runs out before the text does.
-/
import HttpGet.Json.Literal
import HttpGet.Json.Number

namespace HttpGet.Json

/-- Lists and objects nest at most one less deep than this. -/
def depthLimit : Nat := 128

/-- Step into the next item of a list: past the comma that separates it from the item
before, if there is one.  Without an item the list has ended. -/
def nextItem (first : Bool) (s : List Char) : Except Failure (Option (List Char)) :=
  match skipSpace s with
  | [] => .error (.here .endInList [])
  | ']' :: _ => .ok none
  | c :: rest =>
    if first then .ok (some (c :: rest))
    else if c = ',' then
      match skipSpace rest with
      | [] => .error (.here .endInValue [])
      | ']' :: after => .error (.ahead .trailingComma (']' :: after))
      | s => .ok (some s)
    else .error (.ahead .listCommaOrEndExpected (c :: rest))

/-- Read the items of a list, up to its closing bracket. -/
def readItems {α : Type} (item : List Char → Scan α) :
    (fuel : Nat) → (first : Bool) → List Char → Scan (List α)
  | 0, _, s => .error (.here .endInList s)
  | fuel + 1, first, s =>
    match nextItem first s with
    | .error f => .error f
    | .ok none => .ok ([], skipSpace s)
    | .ok (some s) =>
      match item s with
      | .error f => .error f
      | .ok (v, s) =>
        match readItems item fuel false s with
        | .error f => .error f
        | .ok (vs, s) => .ok (v :: vs, s)

/-- Step to the quote that opens the next key of an object; without one the object has
ended. -/
def nextKey (first : Bool) (s : List Char) : Except Failure (Option (List Char)) :=
  match skipSpace s with
  | [] => .error (.here .endInObject [])
  | '}' :: _ => .ok none
  | c :: rest =>
    if first then
      if c = '"' then .ok (some rest) else .error (.ahead .keyExpected (c :: rest))
    else if c = ',' then
      match skipSpace rest with
      | [] => .error (.here .endInValue [])
      | '"' :: after => .ok (some after)
      | '}' :: after => .error (.ahead .trailingComma ('}' :: after))
      | s => .error (.ahead .keyExpected s)
    else .error (.ahead .objectCommaOrEndExpected (c :: rest))

/-- Read the colon after a key. -/
def readColon (s : List Char) : Scan Unit :=
  match skipSpace s with
  | [] => .error (.here .endInObject [])
  | ':' :: rest => .ok ((), rest)
  | s => .error (.ahead .colonExpected s)

/-- Read a key whose opening quote has been read, and the colon after it. -/
def readKey (s : List Char) : Scan String :=
  match stringBody s with
  | .error f => .error f
  | .ok (key, s) =>
    match readColon s with
    | .error f => .error f
    | .ok ((), s) => .ok (String.ofList key, s)

/-- Read the members of an object, up to its closing brace. -/
def readMembers {α : Type} (value : List Char → Scan α) :
    (fuel : Nat) → (first : Bool) → List Char → Scan (List (String × α))
  | 0, _, s => .error (.here .endInObject s)
  | fuel + 1, first, s =>
    match nextKey first s with
    | .error f => .error f
    | .ok none => .ok ([], skipSpace s)
    | .ok (some s) =>
      match readKey s with
      | .error f => .error f
      | .ok (key, s) =>
        match value s with
        | .error f => .error f
        | .ok (v, s) =>
          match readMembers value fuel false s with
          | .error f => .error f
          | .ok (ms, s) => .ok ((key, v) :: ms, s)

/-- Read what a scan leaves without its first character. -/
def closing {α β : Type} (f : α → β) : Scan α → Scan β
  | .error e => .error e
  | .ok (v, s) => .ok (f v, s.tail)

/-- Read a word and stand for a value. -/
def readWord (letters : String) (value : Json) (s : List Char) : Scan Json :=
  match word letters.toList s with
  | .error f => .error f
  | .ok ((), rest) => .ok (value, rest)

/-- Read a value; `depth` is how deep lists and objects may still nest, plus one. -/
def readValue : (depth : Nat) → List Char → Scan Json
  | 0, s => .error (.ahead .tooDeep s)
  | depth + 1, s =>
    match skipSpace s with
    | [] => .error (.here .endInValue [])
    | 'n' :: rest => readWord "ull" .null rest
    | 't' :: rest => readWord "rue" (.flag true) rest
    | 'f' :: rest => readWord "alse" (.flag false) rest
    | '"' :: rest =>
      match stringBody rest with
      | .error f => .error f
      | .ok (cs, rest) => .ok (.text (String.ofList cs), rest)
    | '[' :: rest =>
      if depth = 0 then .error (.ahead .tooDeep ('[' :: rest))
      else closing .array (readItems (readValue depth) (rest.length + 1) true rest)
    | '{' :: rest =>
      if depth = 0 then .error (.ahead .tooDeep ('{' :: rest))
      else closing ofMembers (readMembers (readValue depth) (rest.length + 1) true rest)
    | c :: rest =>
      if c = '-' || c.isDigit then
        match readNumber (c :: rest) with
        | .error f => .error f
        | .ok (n, rest) => .ok (.number n, rest)
      else .error (.ahead .valueExpected (c :: rest))

/-- Nothing but white space may follow a value. -/
def readEnd (s : List Char) : Except Failure Unit :=
  match skipSpace s with
  | [] => .ok ()
  | s => .error (.ahead .trailingCharacters s)

/-- Read a whole text, by a reader of one value. -/
def readText {α : Type} (reader : List Char → Scan α) (text : String) : Except Error α :=
  let s := text.toList
  match reader s with
  | .error f => .error (f.report s)
  | .ok (v, rest) =>
    match readEnd rest with
    | .error f => .error (f.report s)
    | .ok () => .ok v

/-- The value of a JSON text. -/
def parse (text : String) : Except Error Json := readText (readValue depthLimit) text

end HttpGet.Json
