/-
Words that stand for numbers, truth values, dates and times.

A scalar that is not a string is one word; a date and a time may also be two words with
one space between them.  What follows the digits that begin a word, behind a sign, tells
what the word is: a hyphen or a colon makes it a date or a time, a point or the letter of
an exponent a real number, an underscore or nothing an integer.

Underscores may stand between digits and mean nothing.  The form of an integer is checked
no further than that: a word such as `0x` or `1_0xyz` is an integer that spells no number.
-/
import HttpGet.Toml.Tree

namespace HttpGet.Toml

/-- The value of a digit in a base up to sixteen. -/
def baseDigit? (base : Nat) (c : Char) : Option Nat :=
  let n :=
    if '0' ≤ c ∧ c ≤ '9' then c.toNat - '0'.toNat
    else if 'a' ≤ c ∧ c ≤ 'f' then c.toNat - 'a'.toNat + 10
    else if 'A' ≤ c ∧ c ≤ 'F' then c.toNat - 'A'.toNat + 10
    else base
  if n < base then some n else none

/-- Whether each underscore of a word has a digit on either side; `afterDigit` tells whether
what comes before the word counts as one. -/
def separatesDigits (isDigit : Char → Bool) : (afterDigit : Bool) → List Char → Bool
  | _, [] => true
  | afterDigit, c :: rest =>
    if c = '_' then afterDigit && rest.head?.any isDigit && separatesDigits isDigit false rest
    else separatesDigits isDigit (isDigit c) rest

/-- A word without its underscores. -/
def withoutUnderscores (word : List Char) : List Char := word.filter (· ≠ '_')

/-- The number that digits spell in a base. -/
def numberInBase (base : Nat) (digits : List Char) : Nat :=
  digits.foldl (fun n c => n * base + (baseDigit? base c).getD 0) 0

/-- Digits in a base. -/
def natural? (base : Nat) (digits : List Char) : Option Nat :=
  if !digits.isEmpty && digits.all (fun c => (baseDigit? base c).isSome) then
    some (numberInBase base digits)
  else none

/-- A sign, if there is one, and the rest of a word; a minus is told as true. -/
def signed : List Char → Option Bool × List Char
  | '-' :: rest => (some true, rest)
  | '+' :: rest => (some false, rest)
  | word => (none, word)

/-- Whether a character is a digit of the largest base, which is what an underscore of an
integer has on either side, whatever the base. -/
def isHexDigit (c : Char) : Bool := (baseDigit? 16 c).isSome

/-- An integer in another base than ten, after the two characters that name the base. -/
def integerInBase? (base : Nat) (word : List Char) : Option Scalar :=
  if word.all (fun c => c = '_' || (baseDigit? base c).isSome) &&
      separatesDigits isHexDigit false word then
    some (.integer ((natural? base (withoutUnderscores word)).map Int.ofNat))
  else none

/-- A decimal integer, by its sign and what follows it: a zero does not pad it.  The sign
counts as a digit before an underscore. -/
def decimalInteger? (sign : Option Bool) (word : List Char) : Option Scalar :=
  if word.isEmpty || (word.head? = some '0' && 1 < word.length) then none
  else if separatesDigits isHexDigit sign.isSome word then
    some (.integer ((natural? 10 (withoutUnderscores word)).map fun n =>
      if sign = some true then -n else n))
  else none

/-- The decimal digits that begin a word, without the underscores among them, and what
follows them; unless they are `padded`, a zero is not followed by other digits. -/
def leadingDigits? (padded : Bool) (word : List Char) : Option (List Char × List Char) :=
  let isPart (c : Char) : Bool := c.isDigit || c = '_'
  let digits := withoutUnderscores (word.takeWhile isPart)
  if digits.isEmpty || (!padded && word.head? = some '0' && 1 < digits.length) then none
  else some (digits, word.dropWhile isPart)

/-- The digits after the point that begins a word, if one does, and what follows. -/
def fraction? : List Char → Option (List Char × List Char)
  | '.' :: rest => leadingDigits? true rest
  | word => some ([], word)

/-- The exponent after the letter that begins a word; without the letter it is zero, and
nothing may follow. -/
def exponent? : List Char → Option Int
  | [] => some 0
  | c :: rest =>
    if c = 'e' || c = 'E' then
      let (sign, rest) := signed rest
      match leadingDigits? true rest with
      | some (digits, []) =>
        let n : Int := numberInBase 10 digits
        some (if sign = some true then -n else n)
      | _ => none
    else none

/-- A real number, by its sign and what follows it: a whole part, a fraction and an
exponent. -/
def decimalReal? (sign : Option Bool) (word : List Char) : Option Real := do
  let (whole, rest) ← leadingDigits? false word
  let (fraction, rest) ← fraction? rest
  let exponent ← exponent? rest
  if separatesDigits Char.isDigit sign.isSome word then
    let all := numberInBase 10 (whole ++ fraction)
    return match Magnitude.ofDecimal? all (exponent - fraction.length) with
      | some m => .finite ⟨sign = some true, m⟩
      | none => .tooLarge
  else none

/-- The number that exactly `count` decimal digits spell, and the rest of the word. -/
def fixedDigits? (count : Nat) (word : List Char) : Option (Nat × List Char) :=
  let digits := word.take count
  if digits.length = count && digits.all Char.isDigit then
    some (numberInBase 10 digits, word.drop count)
  else none

/-- A character that must come next. -/
def expect? (c : Char) : List Char → Option (List Char)
  | d :: rest => if d = c then some rest else none
  | [] => none

/-- The number of days of a month. -/
def daysOfMonth (year month : Nat) : Nat :=
  if month = 2 then
    if year % 4 = 0 && (year % 100 ≠ 0 || year % 400 = 0) then 29 else 28
  else if month = 4 || month = 6 || month = 9 || month = 11 then 30
  else 31

/-- The rest of a word after a date. -/
def date? (word : List Char) : Option (List Char) := do
  let (year, word) ← fixedDigits? 4 word
  let word ← expect? '-' word
  let (month, word) ← fixedDigits? 2 word
  let word ← expect? '-' word
  let (day, word) ← fixedDigits? 2 word
  if 1 ≤ month && month ≤ 12 && 1 ≤ day && day ≤ daysOfMonth year month then some word
  else none

/-- The rest of a word after hours and minutes. -/
def hoursAndMinutes? (word : List Char) : Option (List Char) := do
  let (hours, word) ← fixedDigits? 2 word
  let word ← expect? ':' word
  let (minutes, word) ← fixedDigits? 2 word
  if hours ≤ 23 && minutes ≤ 59 then some word else none

/-- The rest of a word after a time of day.  Seconds may be left out, and only seconds
have a fraction. -/
def time? (word : List Char) : Option (List Char) := do
  let word ← hoursAndMinutes? word
  match word with
  | ':' :: word =>
    let (seconds, word) ← fixedDigits? 2 word
    if 60 < seconds then none
    else match word with
      | '.' :: c :: rest =>
        if c.isDigit then some (rest.dropWhile Char.isDigit) else none
      | '.' :: [] => none
      | word => some word
  | word => some word

/-- The rest of a word after an offset from universal time, if there is one. -/
def offset? : List Char → Option (List Char)
  | [] => some []
  | c :: rest =>
    if c = 'Z' || c = 'z' then some rest
    else if c = '+' || c = '-' then hoursAndMinutes? rest
    else some (c :: rest)

/-- Whether a word is a date, a time, or a date and a time with or without an offset. -/
def isMoment (word : List Char) : Bool :=
  match date? word with
  | some [] => true
  | some (c :: rest) =>
    (c = 'T' || c = 't' || c = ' ') && ((time? rest).bind offset?) == some []
  | none => time? word == some []

/-- The characters of a scalar's word: all but blanks, the marks of the syntax and the
characters of line breaks. -/
def isWordChar (c : Char) : Bool :=
  !(c = '=' || c = ',' || c = '[' || c = ']' || c = '{' || c = '}' || c = '#' ||
    c = ' ' || c = '\t' || c = '\r' || c = '\n')

/-- The word that begins a text, and what follows; a date takes a time after one space
along. -/
def takeWord (s : List Char) : List Char × List Char :=
  let word := s.takeWhile isWordChar
  match s.dropWhile isWordChar with
  | ' ' :: c :: rest =>
    if c.isDigit && date? word == some [] then
      (word ++ ' ' :: (c :: rest).takeWhile isWordChar, (c :: rest).dropWhile isWordChar)
    else (word, ' ' :: c :: rest)
  | after => (word, after)

/-- The number, date or time that a word stands for. -/
def numeral? (word : List Char) : Option Scalar :=
  let (sign, magnitude) := signed word
  let rest := magnitude.dropWhile Char.isDigit
  if rest.head? = some '-' || rest.head? = some ':' || rest.contains ' ' then
    if isMoment word then some .moment else none
  else if rest.any fun c => c = '.' || c = 'e' || c = 'E' then
    (decimalReal? sign magnitude).map .real
  else if rest.isEmpty || rest.head? = some '_' then decimalInteger? sign magnitude
  else none

/-- The scalar that a word stands for. -/
def scalar? (word : List Char) : Option Scalar :=
  if word = "true".toList then some (.flag true)
  else if word = "false".toList then some (.flag false)
  else
    let (sign, magnitude) := signed word
    if magnitude = "inf".toList then some (.real (.infinite (sign = some true)))
    else if magnitude = "nan".toList then some (.real .nan)
    else match word with
      | '0' :: 'x' :: digits => integerInBase? 16 digits
      | '0' :: 'o' :: digits => integerInBase? 8 digits
      | '0' :: 'b' :: digits => integerInBase? 2 digits
      | _ => numeral? word

example : scalar? "0x".toList = some (.integer none) ∧
    scalar? "-1_000".toList = some (.integer (some (-1000))) ∧
    scalar? "1_0xyz".toList = some (.integer none) ∧ scalar? "1_g".toList = none ∧
    scalar? "0_1".toList = none := by decide +kernel

end HttpGet.Toml
