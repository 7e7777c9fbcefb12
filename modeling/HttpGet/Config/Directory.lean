/-
Reading files of a working directory.

A path is walked from the working directory, or from the root if it begins with a slash,
one name after another.  Only what lies in the working directory is known; a directory
outside it can be entered by `..` and by nothing else.

What is read has to be a file that is UTF-8.  The wording of a failure is that of the
system.
-/
import HttpGet.Text.Split
import HttpGet.Text.Utf8

namespace HttpGet

/-- Why a file cannot be read as text. -/
inductive ReadFailure where
  | nulInName
  | missing
  | notDirectory
  | isDirectory
  | nameTooLong
  | notUtf8
  | denied
  /-- The system refuses for a reason of its own. -/
  | refused (reason : String)
deriving DecidableEq, Repr

/-- The wording of a failure. -/
def ReadFailure.message : ReadFailure → String
  | nulInName => "file name contained an unexpected NUL byte"
  | missing => "No such file or directory (os error 2)"
  | notDirectory => "Not a directory (os error 20)"
  | isDirectory => "Is a directory (os error 21)"
  | nameTooLong => "File name too long (os error 36)"
  | notUtf8 => "stream did not contain valid UTF-8"
  | denied => "Permission denied (os error 13)"
  | refused reason => reason

/-- A reader of text files by path. -/
abbrev FileReader := String → Except ReadFailure String

/-- A file or a directory. -/
inductive FileTree where
  | file (bytes : List UInt8)
  | directory (entries : List (String × FileTree))

namespace FileTree

/-- An empty directory. -/
instance : Inhabited FileTree := ⟨.directory []⟩

/-- The entries of a directory; a file has none. -/
def entries : FileTree → List (String × FileTree)
  | file _ => []
  | directory entries => entries

/-- Put a file or directory at the end of a chain of names, in directories that are made
where they do not exist. -/
def insert (t : FileTree) : (names : List String) → FileTree → FileTree
  | [], new => new
  | name :: names, new =>
    let below := ((t.entries.lookup name).getD default).insert names new
    .directory ((name, below) :: t.entries.filter (·.1 ≠ name))

/-- The names of a path. -/
def namesOf (path : String) : List String :=
  (splitWhere (· = '/') path.toList).map String.ofList

/-- A directory with files at paths. -/
def ofList (files : List (String × FileTree)) : FileTree :=
  files.foldl (fun t f => t.insert (namesOf f.1) f.2) default

/-- Names may have at most so many bytes. -/
def nameLimit : Nat := 255

/-- Paths have to have fewer bytes than this. -/
def pathLimit : Nat := 4096

/-- What stands at the end of a chain of names: nothing if it is a directory outside the
working directory.  `outer` are the directories from `here` up to the working directory. -/
def walk (outer : List FileTree) (here : Option FileTree) :
    List String → Except ReadFailure (Option FileTree)
  | [] => .ok here
  | name :: names =>
    match here with
    | some (.file _) => .error .notDirectory
    | none =>
      if name = "" || name = "." || name = ".." then walk [] none names
      else if nameLimit < name.utf8ByteSize then .error .nameTooLong
      else .error .missing
    | some (.directory entries) =>
      if name = "" || name = "." then walk outer here names
      else if name = ".." then walk outer.tail outer.head? names
      else if nameLimit < name.utf8ByteSize then .error .nameTooLong
      else match entries.lookup name with
        | none => .error .missing
        | some t => walk (.directory entries :: outer) (some t) names

/-- What stands at a path from a working directory. -/
def find (workingDirectory : FileTree) (path : String) : Except ReadFailure (Option FileTree) :=
  if path.contains '\x00' then .error .nulInName
  else if path = "" then .error .missing
  else if pathLimit ≤ path.utf8ByteSize then .error .nameTooLong
  else walk [] (if path.startsWith "/" then none else some workingDirectory) (namesOf path)

/-- Read a file of a working directory. -/
def reader (workingDirectory : FileTree) : FileReader := fun path =>
  match workingDirectory.find path with
  | .error e => .error e
  | .ok (some (.file bytes)) =>
    match Utf8.decode? bytes with
    | some text => .ok text
    | none => .error .notUtf8
  | .ok _ => .error .isDirectory

end FileTree
end HttpGet
