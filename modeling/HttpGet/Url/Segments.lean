/-
The segments of paths.

A path is cut at its slashes into segments, which are entered one after another: dots stand
for the level they are on or for the level above, and a drive letter is a level that nothing
is above.  Levels are listed from the innermost outwards.

What a slash is depends on the scheme: in the schemes of the web and of files the backslash
is one too.
-/
import HttpGet.Text.Split
import HttpGet.Url.Percent

namespace HttpGet

/-- How the URLs of a scheme are read. -/
inductive SchemeKind where
  | web
  | file
  | other
deriving DecidableEq, Repr

namespace Url

/-- Slashes; in the schemes of the web and of files the backslash is one. -/
def isSlash (kind : SchemeKind) (c : Char) : Bool := c = '/' || (c = '\\' && kind ≠ .other)

/-- Segments that stand for the level they are on. -/
def isDot (s : List Char) : Bool := [".", "%2e"].contains (String.ofList (s.map Char.toLower))

/-- Segments that stand for the level above. -/
def isDoubleDot (s : List Char) : Bool :=
  ["..", ".%2e", "%2e.", "%2e%2e"].contains (String.ofList (s.map Char.toLower))

/-- Segments that name a drive. -/
def isDrive : List Char → Bool
  | [c, d] => c.isAlpha && (d = ':' || d = '|')
  | _ => false

/-- The level above, of segments from the innermost outwards; above a drive is nothing. -/
def above : List (List Char) → List (List Char)
  | [] => []
  | segment :: outer => if isDrive segment then segment :: outer else outer

/-- Enter a segment.  Dots that are the last segment leave an empty one. -/
def enterSegment (last : Bool) (inner : List (List Char)) (s : List Char) : List (List Char) :=
  let ended (levels : List (List Char)) := if last then [] :: levels else levels
  if isDoubleDot s then ended (above inner) else if isDot s then ended inner else s :: inner

/-- Enter segments one after another. -/
def enter (inner : List (List Char)) : List (List Char) → List (List Char)
  | [] => inner.reverse
  | s :: rest => enter (enterSegment rest.isEmpty inner s) rest

/-- A segment that is no dots is a level of its own. -/
theorem enterSegment_of_plain {s : List Char} (hdot : isDot s = false)
    (hdouble : isDoubleDot s = false) (last : Bool) (inner : List (List Char)) :
    enterSegment last inner s = s :: inner := by
  simp [enterSegment, hdot, hdouble]

/-- Segments without dots are entered as they are. -/
theorem enter_of_plain {segments : List (List Char)}
    (h : ∀ s ∈ segments, isDot s = false ∧ isDoubleDot s = false) (inner : List (List Char)) :
    enter inner segments = inner.reverse ++ segments := by
  induction segments generalizing inner with
  | nil => simp [enter]
  | cons s rest ih =>
    have hs := h s (by simp)
    rw [enter, enterSegment_of_plain hs.1 hs.2, ih fun t ht => h t (by simp [ht])]
    simp

/-- The segments of a text after its first slash, entered from a level. -/
def segmentsFrom (kind : SchemeKind) (inner : List (List Char)) (s : List Char) :
    List (List Char) :=
  enter inner ((splitWhere (isSlash kind) s).map (Percent.encode Percent.notInPath))

/-- The text of a path after its first slash, if it begins with one. -/
def afterSlash (kind : SchemeKind) : List Char → List Char
  | [] => []
  | c :: rest => if isSlash kind c then rest else c :: rest

end Url
end HttpGet
