/-
Errors of TOML documents.

A value of the wrong shape is shown in an excerpt: the line it begins on, with carets
under it.  Columns count characters; the carets are as many as the bytes of the value,
but at least one, and not beyond the end of the line.
-/
import HttpGet.Toml.Tree
import HttpGet.Text.Position

namespace HttpGet.Toml

/-- Where a value begins: its line and column, from one, the text of that line, and how
many carets mark it. -/
structure Excerpt where
  line : Nat
  column : Nat
  content : String
  carets : Nat
deriving DecidableEq, Repr

namespace Excerpt

/-- The characters after the last line feed. -/
def lastLine (s : List Char) : List Char := (s.reverse.takeWhile (· ≠ '\n')).reverse

/-- The excerpt of a text that shows a span. -/
def ofSpan (text : String) (span : Span) : Excerpt :=
  let s := text.toList
  let before := s.take (s.length - span.fromLeft)
  let after := s.drop (s.length - span.fromLeft)
  let shown := after.take (span.fromLeft - span.toLeft)
  let start := lastLine before
  let content := start ++ after.takeWhile (· ≠ '\n')
  { line := before.count '\n' + 1
    column := start.length + 1
    content := String.ofList content
    carets := max 1 (min (Position.bytes shown) (Position.bytes content - start.length)) }

/-- The lines of an excerpt: the place, and the line between two gutters as wide as its
number. -/
def render (e : Excerpt) : String :=
  let number := toString e.line
  let gutter := "".pushn ' ' (number.length + 1) ++ "|"
  "TOML parse error at line " ++ number ++ ", column " ++ toString e.column ++ "\n" ++
    gutter ++ "\n" ++
    number ++ " | " ++ e.content ++ "\n" ++
    (gutter.pushn ' ' e.column).pushn '^' e.carets ++ "\n"

end Excerpt

/-- Why a text is not the document it should be: it is no document at all, it holds a
number beyond all ranges, or a value has the wrong shape. -/
inductive Error where
  | malformed
  | unreadableNumber
  | mismatch (excerpt : Excerpt) (reason : Mismatch)
deriving DecidableEq, Repr

/-- The wording of an error. -/
def Error.message : Error → String
  | malformed => "the text is not a TOML document\n"
  | unreadableNumber => "a number is out of range\n"
  | mismatch excerpt reason => excerpt.render ++ reason.message ++ "\n"

end HttpGet.Toml
