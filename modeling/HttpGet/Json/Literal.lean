/-
String literals.

`stringBody` reads a literal after its opening quote.  An escape is a letter or four
hexadecimal digits; a surrogate counts only as a high one directly followed by an
escaped low one, and then both are one character.
-/
import HttpGet.Json.Failure
import HttpGet.Text.Hex

namespace HttpGet.Json

/-- The character that a letter after a backslash stands for. -/
def escapedLetter? : Char → Option Char
  | '"' => some '"'
  | '\\' => some '\\'
  | '/' => some '/'
  | 'b' => some '\x08'
  | 'f' => some '\x0c'
  | 'n' => some '\n'
  | 'r' => some '\r'
  | 't' => some '\t'
  | _ => none

/-- Read four hexadecimal digits.  Four bytes are taken at once, whatever they are. -/
def fourDigits (s : List Char) : Scan Nat :=
  if Position.bytes (s.take 4) < 4 then .error (.here .endInString [])
  else match hexNumber? (s.take 4), s with
    | some n, _ :: _ :: _ :: _ :: rest => .ok (n, rest)
    | _, _ => .error ⟨.invalidEscape, s, 4⟩

/-- The high surrogates. -/
def isHighSurrogate (n : Nat) : Bool := 0xD800 ≤ n && n ≤ 0xDBFF

/-- The low surrogates. -/
def isLowSurrogate (n : Nat) : Bool := 0xDC00 ≤ n && n ≤ 0xDFFF

/-- The character of a surrogate pair. -/
def pairedChar (high low : Nat) : Char :=
  Char.ofNat ((high - 0xD800) * 0x400 + (low - 0xDC00) + 0x10000)

/-- Read the low surrogate that has to follow `high`. -/
def lowSurrogate (high : Nat) : List Char → Scan Char
  | [] => .error (.here .endInString [])
  | '\\' :: [] => .error (.here .endInString [])
  | '\\' :: 'u' :: rest =>
    match fourDigits rest with
    | .error f => .error f
    | .ok (low, rest) =>
      if isLowSurrogate low then .ok (pairedChar high low, rest)
      else .error (.here .loneSurrogate rest)
  | '\\' :: rest => .error ⟨.secondSurrogateExpected, rest, 1⟩
  | rest => .error ⟨.secondSurrogateExpected, rest, 1⟩

/-- Read an escape after its backslash. -/
def escape : List Char → Scan Char
  | [] => .error (.here .endInString [])
  | 'u' :: rest =>
    match fourDigits rest with
    | .error f => .error f
    | .ok (n, rest) =>
      if isLowSurrogate n then .error (.here .loneSurrogate rest)
      else if isHighSurrogate n then lowSurrogate n rest
      else .ok (Char.ofNat n, rest)
  | c :: rest =>
    match escapedLetter? c with
    | some e => .ok (e, rest)
    | none => .error ⟨.invalidEscape, c :: rest, 1⟩

/-- Reading four digits leaves less text. -/
theorem length_of_fourDigits {s rest : List Char} {n : Nat} (h : fourDigits s = .ok (n, rest)) :
    rest.length < s.length := by
  unfold fourDigits at h
  split at h
  · simp at h
  · split at h
    · simp only [Except.ok.injEq, Prod.mk.injEq] at h
      obtain ⟨-, rfl⟩ := h
      simp; omega
    · simp at h

/-- Reading a low surrogate leaves less text. -/
theorem length_of_lowSurrogate {high : Nat} {s rest : List Char} {c : Char}
    (h : lowSurrogate high s = .ok (c, rest)) : rest.length < s.length := by
  unfold lowSurrogate at h
  split at h <;> try simp at h
  rename_i r
  cases hd : fourDigits r with
  | error f => simp [hd] at h
  | ok p =>
    obtain ⟨low, r'⟩ := p
    simp only [hd] at h
    split at h
    · simp only [Except.ok.injEq, Prod.mk.injEq] at h
      obtain ⟨-, rfl⟩ := h
      have := length_of_fourDigits hd
      simp; omega
    · simp at h

/-- Reading an escape leaves less text. -/
theorem length_of_escape {s rest : List Char} {c : Char} (h : escape s = .ok (c, rest)) :
    rest.length < s.length := by
  unfold escape at h
  split at h
  · simp at h
  · rename_i r
    cases hd : fourDigits r with
    | error f => simp [hd] at h
    | ok p =>
      obtain ⟨n, r'⟩ := p
      have hlt := length_of_fourDigits hd
      simp only [hd] at h
      split at h
      · simp at h
      · split at h
        · have := length_of_lowSurrogate h
          simp; omega
        · simp only [Except.ok.injEq, Prod.mk.injEq] at h
          obtain ⟨-, rfl⟩ := h
          simp; omega
  · split at h
    · simp only [Except.ok.injEq, Prod.mk.injEq] at h
      obtain ⟨-, rfl⟩ := h
      simp
    · simp at h

/-- Read a string literal after its opening quote: its characters and the text after the
closing quote. -/
def stringBody (s : List Char) : Scan (List Char) :=
  match s with
  | [] => .error (.here .endInString [])
  | '"' :: rest => .ok ([], rest)
  | '\\' :: rest =>
    match h : escape rest with
    | .error f => .error f
    | .ok (c, after) =>
      have : after.length < rest.length := length_of_escape h
      match stringBody after with
      | .error f => .error f
      | .ok (cs, after) => .ok (c :: cs, after)
  | c :: rest =>
    if c.toNat < 0x20 then .error (.here .controlCharacter rest)
    else match stringBody rest with
      | .error f => .error f
      | .ok (cs, after) => .ok (c :: cs, after)
termination_by s.length

end HttpGet.Json
