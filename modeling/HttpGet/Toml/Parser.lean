/-
Reading a TOML document.

A document is a sequence of lines: a key with its value, a table header, or nothing, each
with an optional comment.  `document?` reads it into the entries of its root table.  A
text that is no document has no reading; which rule it breaks is not told.

Arrays and inline tables nest at most eighty deep, which bounds the recursion.  The loops
take the number of characters left as fuel and read at least one character each round.
-/
import HttpGet.Toml.Literal
import HttpGet.Toml.Table

namespace HttpGet.Toml

/-- How deep arrays and inline tables may nest. -/
def depthLimit : Nat := 80

/-- Skip the blanks of a line. -/
def skipBlanks (s : List Char) : List Char := s.dropWhile isBlankChar

/-- The rest of a line after a comment, if there is one. -/
def skipComment? : List Char → Option (List Char)
  | '#' :: rest =>
    let after := rest.dropWhile isTextChar
    if after.isEmpty || (lineBreak? after).isSome then some after else none
  | s => some s

/-- Skip blanks, comments and line breaks between the parts of a value. -/
def skipLayout? : (fuel : Nat) → List Char → Option (List Char)
  | 0, s => some s
  | fuel + 1, s =>
    match skipBlanks s with
    | '#' :: rest => (skipComment? ('#' :: rest)).bind (skipLayout? fuel)
    | s =>
      match lineBreak? s with
      | some rest => skipLayout? fuel rest
      | none => some s

/-- Skip all layout that begins a text. -/
def skipLayout (s : List Char) : Option (List Char) := skipLayout? (s.length + 1) s

/-- The characters of a key without marks. -/
def isBareChar (c : Char) : Bool := c.isAlphanum || c = '-' || c = '_'

/-- Read one part of a key. -/
def readSimpleKey (s : List Char) : Option (Key × List Char) :=
  let named (p : String × List Char) : Key × List Char := (⟨.between s p.2, p.1⟩, p.2)
  match s with
  | '"' :: _ => (readString false s).map named
  | '\'' :: _ => (readString false s).map named
  | _ =>
    let name := s.takeWhile isBareChar
    if name.isEmpty then none
    else some (named (String.ofList name, s.dropWhile isBareChar))

/-- Read a key: its parts between dots.  The last part is returned apart. -/
def readKey : (fuel : Nat) → List Char → Option ((List Key × Key) × List Char)
  | 0, _ => none
  | fuel + 1, s => do
    let (key, s) ← readSimpleKey s
    match skipBlanks s with
    | '.' :: rest =>
      let ((path, last), s) ← readKey fuel (skipBlanks rest)
      return ((key :: path, last), s)
    | _ => return (([], key), s)

/-- Read the items of an array after its bracket, and its end. -/
def readItems (item : List Char → Option (Tree × List Char)) :
    (fuel : Nat) → List Char → Option (List Tree × List Char)
  | 0, _ => none
  | fuel + 1, s => do
    let s ← skipLayout s
    match s with
    | ']' :: rest => return ([], rest)
    | _ =>
      let (v, s) ← item s
      let s ← skipLayout s
      match s with
      | ',' :: rest =>
        let (vs, s) ← readItems item fuel rest
        return (v :: vs, s)
      | ']' :: rest => return ([v], rest)
      | _ => none

/-- Read a key, an equals sign and a value of an inline table, and set the key in it.
Layout may stand between the three. -/
def readAssignment (value : List Char → Option (Tree × List Char)) (entries : Entries)
    (s : List Char) : Option (Entries × List Char) := do
  let ((path, key), s) ← readKey (s.length + 1) s
  match ← skipLayout s with
  | '=' :: rest =>
    let (v, s) ← value (← skipLayout rest)
    let entries ← assign path key v entries
    return (entries, s)
  | _ => none

/-- Read the entries of an inline table after its brace, and its end. -/
def readInline (value : List Char → Option (Tree × List Char)) :
    (fuel : Nat) → Entries → List Char → Option (Entries × List Char)
  | 0, _, _ => none
  | fuel + 1, entries, s => do
    let s ← skipLayout s
    match s with
    | '}' :: rest => return (entries, rest)
    | _ =>
      let (entries, s) ← readAssignment value entries s
      let s ← skipLayout s
      match s with
      | ',' :: rest => readInline value fuel entries rest
      | '}' :: rest => return (entries, rest)
      | _ => none

/-- Read a value; `depth` is how deep arrays and inline tables may still nest. -/
def readValue : (depth : Nat) → List Char → Option (Tree × List Char)
  | depth, '[' :: rest =>
    match depth with
    | 0 => none
    | depth + 1 => do
      let (items, after) ← readItems (readValue depth) (rest.length + 1) rest
      return (.array (.between ('[' :: rest) after) items, after)
  | depth, '{' :: rest =>
    match depth with
    | 0 => none
    | depth + 1 => do
      let (entries, after) ← readInline (readValue depth) (rest.length + 1) [] rest
      return (.table (.between ('{' :: rest) after) (entryTrees entries), after)
  | _, s => do
    match s with
    | '"' :: _ =>
      let (text, after) ← readString true s
      return (.scalar (.between s after) (.text text), after)
    | '\'' :: _ =>
      let (text, after) ← readString true s
      return (.scalar (.between s after) (.text text), after)
    | _ =>
      let (word, after) := takeWord s
      let value ← scalar? word
      return (.scalar (.between s after) value, after)

/-- Read a header after its opening brackets, up to its closing ones. -/
def readHeader (closing : List Char) (s : List Char) : Option ((List Key × Key) × List Char) := do
  let (key, s) ← readKey (s.length + 1) (skipBlanks s)
  let s := skipBlanks s
  if closing.isPrefixOf s then return (key, s.drop closing.length) else none

/-- A document that is being read: its root, and the path of the table that lines without
a header belong to. -/
structure Draft where
  root : Entries
  current : List Key

/-- Set a key in the current table. -/
def Draft.assign (d : Draft) (path : List Key) (key : Key) (value : Tree) : Option Draft :=
  (within false (fun _ entries => Toml.assign path key value entries) d.current .header
    d.root).map fun root => { d with root }

/-- Read what a line holds beside its comment. -/
def readLine (d : Draft) (s : List Char) : Option (Draft × List Char) :=
  match s with
  | '[' :: '[' :: rest => do
    let ((path, key), after) ← readHeader [']', ']'] rest
    let root ← appendTable path key (.between s after) d.root
    return (⟨root, path ++ [key]⟩, after)
  | '[' :: rest => do
    let ((path, key), after) ← readHeader [']'] rest
    let root ← openTable path key (.between s after) d.root
    return (⟨root, path ++ [key]⟩, after)
  | _ => do
    let ((path, key), s) ← readKey (s.length + 1) s
    match skipBlanks s with
    | '=' :: rest =>
      let (v, s) ← readValue depthLimit (skipBlanks rest)
      let d ← d.assign path key v
      return (d, s)
    | _ => none

/-- Read the lines of a document. -/
def readLines : (fuel : Nat) → Draft → List Char → Option Draft
  | 0, _, _ => none
  | fuel + 1, d, s =>
    match skipBlanks s with
    | [] => some d
    | s => do
      let (d, s) ←
        if s.head? = some '#' || (lineBreak? s).isSome then some (d, s) else readLine d s
      let s ← skipComment? (skipBlanks s)
      match s with
      | [] => return d
      | _ =>
        let rest ← lineBreak? s
        readLines fuel d rest

/-- The text without the byte order mark that may begin it. -/
def withoutMark : List Char → List Char
  | '\uFEFF' :: rest => rest
  | s => s

/-- The root table of a document, if the text is one. -/
def document? (text : String) : Option (List (String × Tree)) :=
  let s := withoutMark text.toList
  (readLines (s.length + 1) ⟨[], []⟩ s).map fun d => entryTrees d.root

end HttpGet.Toml
