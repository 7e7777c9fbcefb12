/-
String literals.

A basic string stands between quotation marks and knows escapes, a literal string stands
between apostrophes and knows none.  Either may be long: three marks on each side, line
breaks inside, and a line break just after the opening marks left out.  A long basic
string may also break a line by a backslash, which swallows the white space and the line
breaks that follow.
-/
import HttpGet.Toml.Scalar

namespace HttpGet.Toml

/-- What reading yields: a value and the text after it. -/
abbrev Scan (α : Type) := Option (α × List Char)

/-- The blanks of a line. -/
def isBlankChar (c : Char) : Bool := c = ' ' || c = '\t'

/-- The characters that may stand in a comment or, as far as its marks allow, in a
string. -/
def isTextChar (c : Char) : Bool := c = '\t' || (0x20 ≤ c.toNat && c ≠ '\x7f')

/-- The text after a line break, if it begins with one. -/
def lineBreak? : List Char → Option (List Char)
  | '\n' :: rest => some rest
  | '\r' :: '\n' :: rest => some rest
  | _ => none

/-- The character of a code point; surrogates and numbers beyond the last code point have
none. -/
def scalarValue? (n : Nat) : Option Char :=
  if n.isValidChar then some (Char.ofNat n) else none

/-- Read a character given by exactly `count` hexadecimal digits. -/
def hexEscape (count : Nat) (s : List Char) : Scan Char :=
  let digits := s.take count
  if digits.length = count && digits.all (fun c => (baseDigit? 16 c).isSome) then
    (scalarValue? (numberInBase 16 digits)).map (·, s.drop count)
  else none

/-- The character that a letter after a backslash stands for. -/
def escapedLetter? : Char → Option Char
  | 'b' => some '\x08'
  | 't' => some '\t'
  | 'n' => some '\n'
  | 'f' => some '\x0c'
  | 'r' => some '\r'
  | 'e' => some '\x1b'
  | '"' => some '"'
  | '\\' => some '\\'
  | _ => none

/-- How many hexadecimal digits follow a letter after a backslash. -/
def hexLength? : Char → Option Nat
  | 'x' => some 2
  | 'u' => some 4
  | 'U' => some 8
  | _ => none

/-- Read an escape after its backslash. -/
def escape : List Char → Scan Char
  | [] => none
  | c :: rest =>
    match escapedLetter? c with
    | some e => some (e, rest)
    | none => (hexLength? c).bind fun count => hexEscape count rest

theorem length_of_hexEscape {count : Nat} {s rest : List Char} {c : Char}
    (h : hexEscape count s = some (c, rest)) : rest.length ≤ s.length := by
  unfold hexEscape at h
  simp only at h
  split at h
  · obtain ⟨d, -, hd⟩ := Option.map_eq_some_iff.1 h
    simp only [Prod.mk.injEq] at hd
    rw [← hd.2]
    simp
  · simp at h

/-- Reading an escape leaves less text. -/
theorem length_of_escape {s rest : List Char} {c : Char} (h : escape s = some (c, rest)) :
    rest.length < s.length := by
  unfold escape at h
  split at h
  · simp at h
  · split at h
    · simp only [Option.some.injEq, Prod.mk.injEq] at h
      rw [← h.2]
      exact Nat.lt_succ_self _
    · obtain ⟨count, -, hc⟩ := Option.bind_eq_some_iff.1 h
      exact Nat.lt_succ_of_le (length_of_hexEscape hc)

/-- Whether a character is swallowed after a backslash that breaks a line. -/
def isSwallowed (c : Char) : Bool := isBlankChar c || c = '\n' || c = '\r'

/-- Read a basic string on one line, after its opening mark. -/
def basicString (s : List Char) : Scan (List Char) :=
  match s with
  | [] => none
  | '"' :: rest => some ([], rest)
  | '\\' :: rest =>
    match h : escape rest with
    | none => none
    | some (c, after) =>
      have : after.length < rest.length := length_of_escape h
      (basicString after).map fun p => (c :: p.1, p.2)
  | c :: rest =>
    if isTextChar c then (basicString rest).map fun p => (c :: p.1, p.2) else none
termination_by s.length

/-- Read a literal string on one line, after its opening mark. -/
def literalString : List Char → Scan (List Char)
  | [] => none
  | c :: rest =>
    if c = '\'' then some ([], rest)
    else if isTextChar c then (literalString rest).map fun p => (c :: p.1, p.2)
    else none

/-- The end of a long string, if the text begins with it: three marks close it, and up to
two marks before them belong to the string. -/
def longEnd? (mark : Char) (s : List Char) : Scan (List Char) :=
  let run := (s.takeWhile (· = mark)).length
  if run < 3 then none
  else some (List.replicate (min (run - 3) 2) mark, s.drop (min run 5))

/-- Skip white space and line breaks after a backslash at the end of a line; the blanks
have to end in a line break, and a carriage return has to belong to one. -/
def brokenLine? (s : List Char) : Option (List Char) :=
  match lineBreak? (s.dropWhile isBlankChar) with
  | none => none
  | some rest =>
    let skipped := rest.takeWhile isSwallowed
    let after := rest.dropWhile isSwallowed
    -- every carriage return that is skipped stands before a line feed
    if (skipped.zip (skipped.tail ++ [' '])).all (fun p => p.1 ≠ '\r' || p.2 = '\n')
    then some after else none

/-- Breaking a line leaves less text. -/
theorem length_of_brokenLine {s rest : List Char} (h : brokenLine? s = some rest) :
    rest.length < s.length + 1 := by
  have hd : ∀ (p : Char → Bool) (l : List Char), (l.dropWhile p).length ≤ l.length :=
    fun p l => (List.dropWhile_sublist p).length_le
  unfold brokenLine? at h
  split at h
  · simp at h
  · rename_i r hr
    simp only at h
    split at h
    · simp only [Option.some.injEq] at h
      rw [← h]
      have h1 := hd isSwallowed r
      have h2 := hd isBlankChar s
      have h3 : r.length ≤ (s.dropWhile isBlankChar).length := by
        unfold lineBreak? at hr
        split at hr <;> simp at hr
        · rename_i q hq; subst hr; simp [hq]
        · rename_i q hq; subst hr; simp [hq]; omega
      omega
    · simp at h

/-- Read a long basic string, after its opening marks and a first line break. -/
def longBasicString (s : List Char) : Scan (List Char) :=
  match longEnd? '"' s with
  | some found => some found
  | none =>
    match s with
    | [] => none
    | '\\' :: rest =>
      match h : escape rest with
      | some (c, after) =>
        have : after.length < rest.length := length_of_escape h
        (longBasicString after).map fun p => (c :: p.1, p.2)
      | none =>
        match h : brokenLine? rest with
        | none => none
        | some after =>
          have : after.length < rest.length + 1 := length_of_brokenLine h
          longBasicString after
    | '\n' :: rest => (longBasicString rest).map fun p => ('\n' :: p.1, p.2)
    | '\r' :: '\n' :: rest =>
      (longBasicString rest).map fun p => ('\r' :: '\n' :: p.1, p.2)
    | c :: rest =>
      if isTextChar c then (longBasicString rest).map fun p => (c :: p.1, p.2) else none
termination_by s.length

/-- Read a long literal string, after its opening marks and a first line break. -/
def longLiteralString (s : List Char) : Scan (List Char) :=
  match longEnd? '\'' s with
  | some found => some found
  | none =>
    match s with
    | [] => none
    | '\n' :: rest => (longLiteralString rest).map fun p => ('\n' :: p.1, p.2)
    | '\r' :: '\n' :: rest =>
      (longLiteralString rest).map fun p => ('\r' :: '\n' :: p.1, p.2)
    | c :: rest =>
      if isTextChar c then (longLiteralString rest).map fun p => (c :: p.1, p.2) else none
termination_by s.length

/-- The text after the line break that may follow the opening marks of a long string. -/
def afterFirstBreak (s : List Char) : List Char := (lineBreak? s).getD s

/-- Read a string of any kind, with its marks; the flag tells whether long strings are
allowed. -/
def readString (long : Bool) : List Char → Scan String
  | '"' :: '"' :: '"' :: rest =>
    if long then
      (longBasicString (afterFirstBreak rest)).map fun p => (String.ofList p.1, p.2)
    else none
  | '\'' :: '\'' :: '\'' :: rest =>
    if long then
      (longLiteralString (afterFirstBreak rest)).map fun p => (String.ofList p.1, p.2)
    else none
  | '"' :: rest => (basicString rest).map fun p => (String.ofList p.1, p.2)
  | '\'' :: rest => (literalString rest).map fun p => (String.ofList p.1, p.2)
  | _ => none

end HttpGet.Toml
