/-
Regular expressions.

Only whether a text is a regular expression is decided here, not what it matches.  An
expression is read from left to right: groups are kept on a stack of what is still to be
closed, and a repetition needs something before it to repeat.  Repetitions that are counted
between braces and references to groups are not part of the syntax.

Two flags change what is read.  With `x` blanks and comments do not count.  With `u`, which
is on unless it is taken away, an expression is about characters, and then there are no word
boundaries; without it an expression is about bytes, and then what could match a part of a
character is refused: the dot, the negations of classes, and bytes beyond ASCII.

The loops take the number of characters as fuel and read at least one character each round.
-/
import HttpGet.Text.Alphanumeric
import HttpGet.Text.Blank
import HttpGet.Text.Hex

namespace HttpGet.Pattern

/-- The flags that change what is read. -/
structure Flags where
  unicode : Bool
  verbose : Bool
deriving DecidableEq, Repr

/-- The flags of an expression at its beginning. -/
def Flags.start : Flags := ⟨true, false⟩

/-- What follows the blanks and comments that do not count; a comment ends with its line. -/
def Flags.skip (f : Flags) (s : List Char) : List Char :=
  if f.verbose then go (s.length + 1) s else s
where
  go : Nat → List Char → List Char
    | 0, s => s
    | fuel + 1, s =>
      match s.dropWhile isBlank with
      | '#' :: rest => go fuel (rest.dropWhile (· ≠ '\n'))
      | s => s

/-- What stands in an expression or in a class of characters. -/
inductive Atom where
  /-- One character. -/
  | char (c : Char)
  /-- A set of characters that has a name, such as the digits. -/
  | set
  /-- An end of the text or of a word, which is no character. -/
  | anchor
deriving DecidableEq, Repr

/-- Exactly `count` hexadecimal digits, and what follows them. -/
def hexDigits? (f : Flags) : (count : Nat) → List Char → Option (List Char × List Char)
  | 0, s => some ([], s)
  | count + 1, s =>
    match f.skip s with
    | [] => none
    | c :: rest => (hexDigits? f count rest).map fun p => (c :: p.1, p.2)

/-- The character of exactly `count` hexadecimal digits, and what follows them. -/
def hexAtom? (f : Flags) (count : Nat) (s : List Char) : Option (Atom × List Char) :=
  (hexDigits? f count s).bind fun (digits, rest) =>
    (hexNumber? digits).bind fun n =>
      if n.isValidChar then some (.char (Char.ofNat n), rest) else none

/-- The characters that have letters of their own after a backslash. -/
def letters : List (Char × Char) :=
  [('a', '\x07'), ('f', '\x0c'), ('t', '\t'), ('n', '\n'), ('r', '\r'), ('v', '\x0b')]

/-- What a backslash and the characters after it stand for, and what follows them. -/
def escape? (f : Flags) : List Char → Option (Atom × List Char)
  | [] => none
  | c :: rest =>
    if c = 'x' then
      (hexAtom? f 2 rest).bind fun p =>
        match p.1 with
        | .char byte => if f.unicode || byte.toNat < 0x80 then some p else none
        | _ => none
    else if c = 'u' then hexAtom? f 4 rest
    else if c = 'U' then hexAtom? f 8 rest
    else if c = 'p' || c = 'P' then
      match f.skip rest with
      | category :: rest =>
        if f.unicode && "clmnpszCLMNPSZ".toList.contains category then some (.set, rest) else none
      | [] => none
    else if c = 'd' || c = 's' || c = 'w' then some (.set, rest)
    else if c = 'D' || c = 'S' || c = 'W' then if f.unicode then some (.set, rest) else none
    else if c = 'A' || c = 'z' then some (.anchor, rest)
    else if c = 'b' || c = 'B' || c = '<' || c = '>' then
      if f.unicode then none else some (.anchor, rest)
    else if c.toNat < 0x80 && !c.isAlphanum then some (.char c, rest)
    else (letters.lookup c).map fun c => (.char c, rest)

/-! ### Classes of characters -/

/-- The classes that are named inside brackets and colons. -/
def classNames : List String :=
  ["alnum", "alpha", "ascii", "blank", "cntrl", "digit", "graph", "lower", "print", "punct",
    "space", "upper", "word", "xdigit"]

/-- Whether a text begins with the caret that negates, and the text without it. -/
def caret : List Char → Bool × List Char
  | '^' :: rest => (true, rest)
  | s => (false, s)

/-- What follows a named class, if one follows the bracket before `s`, and whether it is
negated. -/
def namedClass? : List Char → Option (Bool × List Char)
  | ':' :: rest =>
    let (negated, rest) := caret rest
    match rest.dropWhile (· ≠ ':') with
    | ':' :: ']' :: after =>
      if classNames.contains (String.ofList (rest.takeWhile (· ≠ ':'))) then some (negated, after)
      else none
    | _ => none
  | _ => none

/-- What follows hyphens that are meant as they are. -/
def afterHyphens (f : Flags) : (fuel : Nat) → List Char → List Char
  | 0, s => s
  | fuel + 1, s =>
    match s with
    | '-' :: rest => afterHyphens f fuel (f.skip rest)
    | s => s

/-- What follows the beginning of a class after its bracket: a caret, and hyphens or a
closing bracket that are meant as they are. -/
def classBody? (f : Flags) (s : List Char) : Option (List Char) :=
  let (negated, s) := caret (f.skip s)
  let s := if negated then f.skip s else s
  if negated && !f.unicode then none
  else match s with
    | '-' :: _ => some (afterHyphens f (s.length + 1) s)
    | ']' :: rest => some rest
    | s => some s

/-- One item of a class, and what follows it. -/
def classAtom? (f : Flags) (s : List Char) : Option (Atom × List Char) :=
  let atom? := match s with
    | [] => none
    | '\\' :: rest => escape? f rest
    | c :: rest => some (.char c, rest)
  match atom? with
  | some (.anchor, _) => none
  | some (.char c, rest) => if f.unicode || c.toNat < 0x80 then some (.char c, rest) else none
  | other => other

/-- What follows an item of a class, or a range between two characters in order. -/
def classItem? (f : Flags) (s : List Char) : Option (List Char) :=
  match classAtom? f s with
  | none => none
  | some (first, rest) =>
    match f.skip rest with
    | '-' :: more =>
      let after := f.skip more
      if after.head? = some ']' || after.head? = some '-' then some ('-' :: more)
      else match first, classAtom? f after with
        | .char low, some (.char high, after) => if low ≤ high then some after else none
        | _, _ => none
    | rest => some rest

/-- What follows a class whose bracket, and `depth` more around it, are still open. -/
def class? (f : Flags) : (fuel depth : Nat) → List Char → Option (List Char)
  | 0, _, _ => none
  | fuel + 1, depth, s =>
    match f.skip s with
    | [] => none
    | '[' :: rest =>
      match namedClass? rest with
      | some (negated, after) => if negated && !f.unicode then none else class? f fuel depth after
      | none => (classBody? f rest).bind (class? f fuel (depth + 1))
    | ']' :: rest =>
      match depth with
      | 0 => some rest
      | depth + 1 => class? f fuel depth rest
    | '&' :: '&' :: rest => class? f fuel depth rest
    | '-' :: '-' :: rest => class? f fuel depth rest
    | '~' :: '~' :: rest => class? f fuel depth rest
    | s => (classItem? f s).bind (class? f fuel depth)

/-! ### Groups -/

/-- Whether flags are known, each is given once, and the hyphen that takes flags away stands
before one. -/
def areFlags (flags : List Char) : Bool :=
  flags.all "imsUuRx-".toList.contains && flags.Nodup && flags.getLast? ≠ some '-'

/-- Whether a text may name a group. -/
def isGroupName : List Char → Bool
  | [] => false
  | c :: rest =>
    (c = '_' || (isAlphanumeric c && !c.isDigit)) &&
      rest.all fun c => c = '_' || c = '.' || c = '[' || c = ']' || isAlphanumeric c

/-- The flags after some flags are given and, after a hyphen, others are taken away. -/
def Flags.after (f : Flags) (given : List Char) : Flags :=
  (given.foldl (fun (f, on) c =>
    if c = '-' then (f, false)
    else if c = 'u' then ({ f with unicode := on }, on)
    else if c = 'x' then ({ f with verbose := on }, on)
    else (f, on)) (f, true)).1

/-- What an opening parenthesis begins. -/
inductive Opening where
  /-- A group, which may have a name, and flags for what is in it. -/
  | group (name : Option (List Char)) (given : List Char)
  /-- Flags for what follows, and no group. -/
  | flags (given : List Char)
deriving DecidableEq, Repr

/-- What is begun by an opening parenthesis, and what follows. -/
def opening? (f : Flags) (s : List Char) : Option (Opening × List Char) :=
  let named (s : List Char) : Option (Opening × List Char) :=
    let name := s.takeWhile (· ≠ '>')
    match s.dropWhile (· ≠ '>') with
    | _ :: after => if isGroupName name then some (.group (some name) [], after) else none
    | [] => none
  match f.skip s with
  | '?' :: 'P' :: '<' :: rest => named rest
  | '?' :: '<' :: rest => named rest
  | '?' :: rest =>
    let isEnd (c : Char) : Bool := c = ':' || c = ')'
    let given := rest.takeWhile (!isEnd ·)
    match rest.dropWhile (!isEnd ·) with
    | ':' :: after => if areFlags given then some (.group none given, after) else none
    | ')' :: after => if areFlags given && !given.isEmpty then some (.flags given, after) else none
    | _ => none
  | s => some (.group none [], s)

/-! ### Expressions -/

/-- How far an expression has been read: the flags, those that each open group gives back, the
names of groups, and whether a repetition would have something to repeat. -/
structure Progress where
  flags : Flags
  outer : List Flags
  names : List (List Char)
  repeatable : Bool
deriving DecidableEq, Repr

/-- Whether an expression that has been read so far can be read to its end. -/
def continues : (fuel : Nat) → Progress → List Char → Bool
  | 0, _, _ => false
  | fuel + 1, p, s =>
    let go (rest : List Char) : Bool := continues fuel { p with repeatable := true } rest
    match p.flags.skip s with
    | [] => p.outer.isEmpty
    | '(' :: rest =>
      match opening? p.flags rest with
      | none => false
      | some (.flags given, rest) =>
        continues fuel { p with flags := p.flags.after given, repeatable := false } rest
      | some (.group name given, rest) =>
        !(name.map p.names.contains).getD false &&
          continues fuel
            ⟨p.flags.after given, p.flags :: p.outer, name.toList ++ p.names, false⟩ rest
    | ')' :: rest =>
      match p.outer with
      | [] => false
      | flags :: outer => continues fuel ⟨flags, outer, p.names, true⟩ rest
    | '|' :: rest => continues fuel { p with repeatable := false } rest
    | '[' :: rest =>
      match (classBody? p.flags rest).bind (class? p.flags (rest.length + 1) 0) with
      | none => false
      | some rest => go rest
    | '{' :: _ => false
    | '.' :: rest => p.flags.unicode && go rest
    | '\\' :: rest =>
      match escape? p.flags rest with
      | none => false
      | some (_, rest) => go rest
    | c :: rest =>
      if c = '*' || c = '+' || c = '?' then
        p.repeatable && go (if rest.head? = some '?' then rest.tail else rest)
      else go rest

/-- Whether a text is a regular expression. -/
def isValid (text : List Char) : Bool := continues (text.length + 1) ⟨.start, [], [], false⟩ text

example : ["", "a|b*?", "(?i:x)+", "[^]a-z]", "[a&&[[:alpha:]]]", "\\d\\x41", "(?P<n>.)", "()*",
    "(?x) a # (\n *", "(?-u:\\b)\\W"].all (fun s => isValid s.toList) = true := by decide +kernel

example : ["(", ")", "*", "a|*", "[", "[]", "[z-a]", "\\", "\\1", "(?<1>)", "(?i)*", "a\x7b",
    "\\b", "(?-u).", "(?-u:[^a])"].any (fun s => isValid s.toList) = false := by decide +kernel

end HttpGet.Pattern
