/-
Records read straight from a JSON text.

A record is read from the text, not from a value, so that a mismatch is reported where
the text was when it showed.  A record comes as an object of its fields in any order,
other members being skipped, or as the list of its fields in order.

What a skipped member holds is checked less strictly than a value: numbers may be out of
range, surrogates need no partner, and nesting has no bound.
-/
import HttpGet.Json.Parser
import HttpGet.Json.Printer
import HttpGet.Mismatch

namespace HttpGet.Json

/-- A reader of one value. -/
abbrev Reader (α : Type) := List Char → Scan α

/-! ### Skipping a value -/

/-- Skip an escape after its backslash. -/
def skipEscape : List Char → Except Failure (List Char)
  | [] => .error (.here .endInString [])
  | c :: rest =>
    if c = 'u' then (fourDigits rest).map (·.2)
    else if (escapedLetter? c).isSome then .ok rest
    else .error ⟨.invalidEscape, c :: rest, 1⟩

/-- Skipping an escape leaves less text. -/
theorem length_of_skipEscape {s rest : List Char} (h : skipEscape s = .ok rest) :
    rest.length < s.length := by
  unfold skipEscape at h
  split at h
  · simp at h
  · rename_i c r
    split at h
    · cases hd : fourDigits r with
      | error f => simp [hd, Except.map] at h
      | ok p =>
        simp only [hd, Except.map, Except.ok.injEq] at h
        have hlt := length_of_fourDigits hd
        rw [h] at hlt
        simp only [List.length_cons]
        omega
    · split at h
      · simp only [Except.ok.injEq] at h
        rw [h]
        exact Nat.lt_succ_self _
      · simp at h

/-- Skip a string literal after its opening quote. -/
def skipString (s : List Char) : Except Failure (List Char) :=
  match s with
  | [] => .error (.here .endInString [])
  | '"' :: rest => .ok rest
  | '\\' :: rest =>
    match h : skipEscape rest with
    | .error f => .error f
    | .ok after =>
      have : after.length < rest.length := length_of_skipEscape h
      skipString after
  | c :: rest =>
    if c.toNat < 0x20 then .error (.here .controlCharacter (c :: rest)) else skipString rest
termination_by s.length

/-- Skip a number literal.  Wherever it breaks off, it is an invalid number. -/
def skipNumber (s : List Char) : Except Failure (List Char) :=
  match numeral s with
  | .ok (_, rest) => .ok rest
  | .error f => .error { f with cause := .invalidNumber }

/-- A list or an object that is being skipped. -/
inductive Frame where
  | list
  | object
deriving DecidableEq, Repr

/-- The end of a list or an object. -/
def Frame.close : Frame → Char
  | list => ']'
  | object => '}'

/-- The cause when the text ends inside. -/
def Frame.atEnd : Frame → Cause
  | list => .endInList
  | object => .endInObject

/-- The cause when neither a comma nor the end follows an item. -/
def Frame.separatorExpected : Frame → Cause
  | list => .listCommaOrEndExpected
  | object => .objectCommaOrEndExpected

/-- Skip the key and the colon before the next item of an object. -/
def skipKey : Frame → List Char → Except Failure (List Char)
  | .list, s => .ok s
  | .object, s =>
    match skipSpace s with
    | [] => .error (.here .endInObject [])
    | '"' :: rest => do
      match skipSpace (← skipString rest) with
      | [] => .error (.here .endInObject [])
      | ':' :: rest => .ok rest
      | s => .error (.ahead .colonExpected s)
    | s => .error (.ahead .keyExpected s)

/-- Skip what has no parts, or step into a list or an object. -/
def skipStart (s : List Char) : Except Failure (Option Frame × List Char) :=
  match skipSpace s with
  | [] => .error (.here .endInValue [])
  | 'n' :: rest => (word "ull".toList rest).map fun p => (none, p.2)
  | 't' :: rest => (word "rue".toList rest).map fun p => (none, p.2)
  | 'f' :: rest => (word "alse".toList rest).map fun p => (none, p.2)
  | '"' :: rest => (skipString rest).map fun s => (none, s)
  | '[' :: rest => .ok (some .list, rest)
  | '{' :: rest => .ok (some .object, rest)
  | c :: rest =>
    if c = '-' || c.isDigit then (skipNumber (c :: rest)).map fun s => (none, s)
    else .error (.ahead .valueExpected (c :: rest))

/-- Close the lists and objects that end here, innermost first, up to a comma or to the
next item; the flag says that a comma may come.  Nothing is left open at the end of the
value. -/
def skipEnds (afterItem : Bool) : List Frame → List Char → Except Failure (List Frame × List Char)
  | [], s => .ok ([], s)
  | frame :: outer, s =>
    match skipSpace s with
    | [] => .error (.here frame.atEnd [])
    | c :: rest =>
      if afterItem && c = ',' then do return (frame :: outer, ← skipKey frame rest)
      else if c = frame.close then skipEnds true outer rest
      else if afterItem then .error (.ahead frame.separatorExpected (c :: rest))
      else do return (frame :: outer, ← skipKey frame (c :: rest))

/-- Skip values until nothing is left open. -/
def skipAll : (fuel : Nat) → List Frame → List Char → Except Failure (List Char)
  | 0, _, s => .error (.here .endInValue s)
  | fuel + 1, frames, s =>
    match skipStart s with
    | .error f => .error f
    | .ok (opened, s) =>
      match skipEnds opened.isNone (opened.toList ++ frames) s with
      | .error f => .error f
      | .ok ([], s) => .ok s
      | .ok (frames, s) => skipAll fuel frames s

/-- Skip one value. -/
def skipValue (s : List Char) : Except Failure (List Char) := skipAll (s.length + 1) [] s

/-! ### Values of a shape -/

/-- The failure of a value that has not the expected shape.  A value without parts has
been read by then. -/
def unexpected (expected : String) (s : List Char) : Failure :=
  let wrong (found : Found) (rest : List Char) : Failure :=
    .here (.mismatch (Mismatch.kind found expected).message) rest
  let afterWord (letters : String) (found : Found) (rest : List Char) : Failure :=
    match word letters.toList rest with
    | .error f => f
    | .ok (_, rest) => wrong found rest
  match s with
  | [] => .here .endInValue []
  | 'n' :: rest => afterWord "ull" (.other "null") rest
  | 't' :: rest => afterWord "rue" (.flag true) rest
  | 'f' :: rest => afterWord "alse" (.flag false) rest
  | '"' :: rest =>
    match stringBody rest with
    | .error f => f
    | .ok (cs, rest) => wrong (.text (String.ofList cs)) rest
  | '[' :: rest => wrong .sequence ('[' :: rest)
  | '{' :: rest => wrong .map ('{' :: rest)
  | c :: rest =>
    if c = '-' || c.isDigit then
      match readNumber (c :: rest) with
      | .error f => f
      | .ok (.integer n, rest) => wrong (.integer n.val) rest
      | .ok (.real x, rest) => wrong (.real (String.ofList (numberLayout.write x))) rest
    else .ahead .valueExpected (c :: rest)

/-- Read a text. -/
def readTextValue : Reader String := fun s =>
  match skipSpace s with
  | '"' :: rest =>
    match stringBody rest with
    | .error f => .error f
    | .ok (cs, rest) => .ok (String.ofList cs, rest)
  | s => .error (unexpected "a string" s)

/-- Read a flag. -/
def readFlag : Reader Bool := fun s =>
  match skipSpace s with
  | 't' :: rest => (word "rue".toList rest).map fun p => (true, p.2)
  | 'f' :: rest => (word "alse".toList rest).map fun p => (false, p.2)
  | s => .error (unexpected "a boolean" s)

/-- Read a list. -/
def readList {α : Type} (item : Reader α) : Reader (List α) := fun s =>
  match skipSpace s with
  | '[' :: rest => closing id (readItems item (rest.length + 1) true rest)
  | s => .error (unexpected "a sequence" s)

/-- Read a value that may be null. -/
def readOptional {α : Type} (value : Reader α) : Reader (Option α) := fun s =>
  match skipSpace s with
  | 'n' :: rest => (word "ull".toList rest).map fun p => (none, p.2)
  | s => (value s).map fun p => (some p.1, p.2)

/-! ### Records -/

/-- A field of a record that is collected in a draft: its name, how its value is read into
the draft, whether the draft has it, and the draft that does without it in a list of
fields that ends before it. -/
structure Field (σ : Type) where
  name : String
  read : σ → Reader σ
  isSet : σ → Bool
  omitted : σ → Option σ

/-- A record of type `α`, collected in drafts of type `σ`. -/
structure Record (σ α : Type) where
  name : String
  fields : List (Field σ)
  start : σ
  finish : σ → Except Mismatch α

/-- The text after the end of an object, when reading it has failed without a place: the
place is then just after the brace, or at what stands instead of it. -/
def afterObject (s : List Char) : List Char :=
  match skipSpace s with
  | '}' :: rest => rest
  | s => s

/-- The text after the end of a list, when reading it has failed without a place. -/
def afterList (s : List Char) : List Char :=
  match skipSpace s with
  | ']' :: rest => rest
  | ',' :: rest => skipSpace rest
  | s => s

/-- Read the end of a list of fields. -/
def readListEnd (s : List Char) : Except Failure (List Char) :=
  match skipSpace s with
  | [] => .error (.here .endInList [])
  | ']' :: rest => .ok rest
  | ',' :: rest =>
    match skipSpace rest with
    | ']' :: after => .error (.ahead .trailingComma (']' :: after))
    | s => .error (.ahead .trailingCharacters s)
  | s => .error (.ahead .trailingCharacters s)

namespace Record

variable {σ α : Type} (r : Record σ α)

/-- Read the members of an object into a draft, up to its closing brace. -/
def readMembers : (fuel : Nat) → (first : Bool) → σ → Reader σ
  | 0, _, _, s => .error (.here .endInObject s)
  | fuel + 1, first, draft, s =>
    match nextKey first s with
    | .error f => .error f
    | .ok none => .ok (draft, skipSpace s)
    | .ok (some s) =>
      match stringBody s with
      | .error f => .error f
      | .ok (key, s) =>
        let key := String.ofList key
        match r.fields.find? (·.name = key) with
        | none =>
          match readColon s with
          | .error f => .error f
          | .ok ((), s) =>
            match skipValue s with
            | .error f => .error f
            | .ok s => readMembers fuel false draft s
        | some field =>
          if field.isSet draft then
            .error (.here (.mismatch (Mismatch.duplicate key).message) (afterObject s))
          else match readColon s with
            | .error f => .error f
            | .ok ((), s) =>
              match field.read draft s with
              | .error f => .error f
              | .ok (draft, s) => readMembers fuel false draft s

/-- Read the fields in order into a draft, and the end of the list. -/
def readFields : List (Field σ) → (count : Nat) → σ → Reader σ
  | [], _, draft, s => (readListEnd s).map fun s => (draft, s)
  | field :: fields, count, draft, s =>
    match nextItem (count = 0) s with
    | .error f => .error f
    | .ok (some s) =>
      match field.read draft s with
      | .error f => .error f
      | .ok (draft, s) => readFields fields (count + 1) draft s
    | .ok none =>
      match field.omitted draft with
      | some draft => readFields fields (count + 1) draft s
      | none =>
        let expected := Mismatch.recordOf r.name r.fields.length
        .error (.here (.mismatch (Mismatch.length count expected).message) (afterList s))

/-- Read a record. -/
def read : Reader α := fun s =>
  let done (draft : σ) (s : List Char) : Scan α :=
    match r.finish draft with
    | .ok v => .ok (v, s)
    | .error m => .error (.here (.mismatch m.message) s)
  match skipSpace s with
  | '{' :: rest =>
    match r.readMembers (rest.length + 1) true r.start rest with
    | .error f => .error f
    | .ok (draft, s) => done draft s.tail
  | '[' :: rest =>
    match r.readFields r.fields 0 r.start rest with
    | .error f => .error f
    | .ok (draft, s) => done draft s
  | s => .error (unexpected ("struct " ++ r.name) s)

end Record
end HttpGet.Json
