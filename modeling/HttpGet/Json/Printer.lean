/-
Writing a JSON text.

The compact form has no white space.  The pretty form puts each item and each member on
a line of its own, indented by two spaces a level, and a space after each colon; an empty
list or object stays on one line.

Inside a string only the quote, the backslash and the characters below U+0020 are
escaped.
-/
import HttpGet.Json.Value
import HttpGet.Text.Hex
import HttpGet.Decimal.Shortest

namespace HttpGet.Json

/-- A number is written positionally from `1e-5` up to `1e16`; of two equally near decimals
the even one is written. -/
def numberLayout : Layout where
  tie := .even
  positional point := -4 ≤ point && point ≤ 16

/-- The text of a number. -/
def Number.write : Number → List Char
  | .integer n => (if n.val < 0 then ['-'] else []) ++ Nat.toDigits 10 n.val.natAbs
  | .real x => numberLayout.write x

example : (Magnitude.nearest? 1 33554432).map (fun m => numberLayout.write ⟨false, m⟩) =
    some "2.9802322387695312e-8".toList := by decide +kernel
example : (Magnitude.ofDecimal? 1 16).map (fun m => numberLayout.write ⟨true, m⟩) =
    some "-1e+16".toList := by decide +kernel
example : numberLayout.write ⟨true, .zero⟩ = "-0.0".toList := by decide +kernel

/-- How a character is written inside a string. -/
def escapeChar (c : Char) : List Char :=
  if c = '"' then ['\\', '"']
  else if c = '\\' then ['\\', '\\']
  else if c = '\x08' then ['\\', 'b']
  else if c = '\x0c' then ['\\', 'f']
  else if c = '\n' then ['\\', 'n']
  else if c = '\r' then ['\\', 'r']
  else if c = '\t' then ['\\', 't']
  else if c.toNat < 0x20 then
    ['\\', 'u', '0', '0', hexDigit (c.toNat / 16), hexDigit (c.toNat % 16)]
  else [c]

/-- A string literal. -/
def quote (s : String) : List Char := '"' :: s.toList.flatMap escapeChar ++ ['"']

/-- The text of a flag. -/
def flagWord (b : Bool) : List Char := if b then "true".toList else "false".toList

mutual

/-- The compact text of a value. -/
def compact : Json → List Char
  | .null => "null".toList
  | .flag b => flagWord b
  | .number n => n.write
  | .text s => quote s
  | .array [] => ['[', ']']
  | .array (v :: vs) => '[' :: compact v ++ compactItems vs
  | .object [] => ['{', '}']
  | .object (m :: ms) => '{' :: compactMember m ++ compactMembers ms
termination_by structural v => v

/-- The items after the first of a list, and its end. -/
def compactItems : List Json → List Char
  | [] => [']']
  | v :: vs => ',' :: compact v ++ compactItems vs
termination_by structural vs => vs

/-- The members after the first of an object, and its end. -/
def compactMembers : List (String × Json) → List Char
  | [] => ['}']
  | m :: ms => ',' :: compactMember m ++ compactMembers ms
termination_by structural ms => ms

/-- A key with its value. -/
def compactMember : String × Json → List Char
  | (key, v) => quote key ++ ':' :: compact v
termination_by structural m => m

end

/-- A line break, and the indentation of a level. -/
def newLine (level : Nat) : List Char := '\n' :: List.replicate (2 * level) ' '

mutual

/-- The pretty text of a value at a level. -/
def pretty (level : Nat) : Json → List Char
  | .null => "null".toList
  | .flag b => flagWord b
  | .number n => n.write
  | .text s => quote s
  | .array [] => ['[', ']']
  | .array (v :: vs) =>
    '[' :: newLine (level + 1) ++ pretty (level + 1) v ++ prettyItems level vs
  | .object [] => ['{', '}']
  | .object (m :: ms) =>
    '{' :: newLine (level + 1) ++ prettyMember (level + 1) m ++ prettyMembers level ms
termination_by structural v => v

/-- The items after the first of a list at a level, and its end. -/
def prettyItems (level : Nat) : List Json → List Char
  | [] => newLine level ++ [']']
  | v :: vs =>
    ',' :: newLine (level + 1) ++ pretty (level + 1) v ++ prettyItems level vs
termination_by structural vs => vs

/-- The members after the first of an object at a level, and its end. -/
def prettyMembers (level : Nat) : List (String × Json) → List Char
  | [] => newLine level ++ ['}']
  | m :: ms =>
    ',' :: newLine (level + 1) ++ prettyMember (level + 1) m ++ prettyMembers level ms
termination_by structural ms => ms

/-- A key with its value at a level. -/
def prettyMember (level : Nat) : String × Json → List Char
  | (key, v) => quote key ++ ':' :: ' ' :: pretty level v
termination_by structural m => m

end

/-- The compact text of a value. -/
def toCompactString (v : Json) : String := String.ofList (compact v)

/-- The pretty text of a value. -/
def toPrettyString (v : Json) : String := String.ofList (pretty 0 v)

end HttpGet.Json
