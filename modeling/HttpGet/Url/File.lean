/-
URLs of files.

A file is named by a host and a path.  The host stands after two slashes; it may be left out,
and where the path begins with a drive letter there is none.

Tabs and line breaks do not count in a URL, but here one may still end a drive letter, so
that the text of a file is read with them.
-/
import HttpGet.Url.Basic
import HttpGet.Url.Segments

namespace HttpGet.Url

/-- Characters that do not count anywhere. -/
def isLineSpace (c : Char) : Bool := c = '\t' || c = '\n' || c = '\r'

/-- The characters of a part that count. -/
def clean (s : List Char) : List Char := s.filter (!isLineSpace ·)

/-- Where all characters count, cleaning changes nothing. -/
theorem clean_of_all {s : List Char} (h : ∀ c ∈ s, isLineSpace c = false) : clean s = s := by
  simp only [clean, List.filter_eq_self, Bool.not_eq_true']
  exact h

/-- The drive that a segment begins with, and the rest of the segment, where a tab or a line
break stands between the two. -/
def cutDrive? (segment : List Char) : Option (List Char × List Char) :=
  match segment.dropWhile isLineSpace with
  | [] => none
  | letter :: s =>
    match s.dropWhile isLineSpace with
    | ':' :: space :: s =>
      if letter.isAlpha && isLineSpace space && !(clean s).isEmpty then
        some ([letter, ':'], clean s)
      else none
    | _ => none

/-- How far the path of a file has been read: the segments from the innermost outwards, and
whether it is on a drive. -/
structure FilePath where
  inner : List (List Char)
  onDrive : Bool
deriving DecidableEq, Repr

/-- Enter a segment of a file's path.  A drive that comes first is written with a colon. -/
def FilePath.enter (last : Bool) (p : FilePath) (segment : List Char) : FilePath :=
  let s := Percent.encode Percent.notInPath (clean segment)
  let entered : FilePath := { p with inner := enterSegment last p.inner s }
  if !p.inner.isEmpty then entered
  else match cutDrive? segment with
    | some (drive, rest) => { p with inner := [Percent.encode Percent.notInPath rest, drive] }
    | none => if isDrive s then ⟨[s.take 1 ++ [':']], true⟩ else entered

/-- Enter segments of a file's path one after another. -/
def FilePath.enterAll (p : FilePath) : List (List Char) → FilePath
  | [] => p
  | s :: rest => FilePath.enterAll (p.enter rest.isEmpty s) rest

/-- The path of a file: its segments, without the empty ones at the beginning, and whether
it is on a drive. -/
def filePath (s : List Char) : Path × Bool :=
  let p := FilePath.enterAll ⟨[], false⟩ (splitWhere (isSlash .file) s)
  match p.inner.reverse.dropWhile List.isEmpty with
  | [] => (.segments [[]], p.onDrive)
  | segments => (.segments segments, p.onDrive)

/-- What follows the slash that begins a text, if one does. -/
def afterFileSlash? (s : List Char) : Option (List Char) :=
  match s.dropWhile isLineSpace with
  | [] => none
  | c :: rest => if isSlash .file c then some rest else none

/-- Authority and path of a file.  A host stands after two slashes, unless a drive stands
there; a path on a drive has no host.  The slash after a host that is left out, or is this
machine, counts as a segment. -/
def file? (s : List Char) : Option (Authority × Path) := do
  let here (s : List Char) : Authority × Path := (⟨default, .name [], none⟩, (filePath s).1)
  match afterFileSlash? s with
  | none => return here s
  | some afterOne =>
    match afterFileSlash? afterOne with
    | none => return here afterOne
    | some afterTwo =>
      let hostText := clean (afterTwo.takeWhile (!isSlash .file ·))
      let path := afterTwo.dropWhile (!isSlash .file ·)
      if isDrive hostText then return here afterTwo
      else if hostText.isEmpty then return here path
      else
        let host ← Host.ofText? hostText
        if host = .name "localhost".toList then return here path
        else
          let (segments, onDrive) := filePath (path.drop 1)
          return (⟨default, if onDrive then .name [] else host, none⟩, segments)

example : (file? "/h:\t80/x".toList).map (fun p => p.2.write) = some "/h:/80/x".toList ∧
    (file? "///C|".toList).map (fun p => p.2.write) = some "/C|".toList := by decide +kernel

end HttpGet.Url
