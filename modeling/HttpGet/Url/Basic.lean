/-
URLs and their text.

A URL is kept in parts that are already in normal form: the scheme in lower case, the host
parsed, the default port left out, dots resolved, and percent encoding where a part needs
it.  `Url.write` puts the parts together; `Url.target` is what a request asks for, which is
the URL without user and fragment.
-/
import HttpGet.Url.Host

namespace HttpGet

/-- The user of a URL. -/
structure UserInfo where
  name : List Char
  password : List Char
deriving DecidableEq, Repr

/-- No user. -/
instance : Inhabited UserInfo := ⟨⟨[], []⟩⟩

/-- The authority of a URL: whom to ask. -/
structure Authority where
  user : UserInfo
  host : Host
  port : Option Nat
deriving DecidableEq, Repr

/-- The path of a URL: segments, or a text without structure. -/
inductive Path where
  | segments (s : List (List Char))
  | plain (text : List Char)
deriving DecidableEq, Repr

/-- A URL. -/
structure Url where
  scheme : List Char
  authority : Option Authority
  path : Path
  query : Option (List Char)
  fragment : Option (List Char)
deriving DecidableEq, Repr

/-- A user with what separates it from the host. -/
def UserInfo.write (u : UserInfo) : List Char :=
  if u.name.isEmpty && u.password.isEmpty then []
  else u.name ++ (if u.password.isEmpty then [] else ':' :: u.password) ++ ['@']

/-- A port with what separates it from the host. -/
def writePort : Option Nat → List Char
  | none => []
  | some port => ':' :: Nat.toDigits 10 port

/-- The text of an authority. -/
def Authority.write (a : Authority) : List Char := a.user.write ++ a.host.write ++ writePort a.port

/-- Segments, each after a slash. -/
def writeSegments (segments : List (List Char)) : List Char := segments.flatMap ('/' :: ·)

namespace Path

/-- The text of a path. -/
def write : Path → List Char
  | segments s => writeSegments s
  | plain text => text

/-- What keeps a path without authority from being read as one. -/
def guard : Path → List Char
  | segments ([] :: _ :: _) => ['/', '.']
  | _ => []

end Path

namespace Url

/-- The text of a part that may be absent, after the character that announces it. -/
def writePart (mark : Char) : Option (List Char) → List Char
  | none => []
  | some s => mark :: s

/-- The characters of a URL up to its fragment. -/
def writeBeforeFragment (u : Url) : List Char :=
  u.scheme ++ [':'] ++
    (match u.authority with
    | some a => ['/', '/'] ++ a.write ++ u.path.write
    | none => u.path.guard ++ u.path.write) ++
    writePart '?' u.query

/-- The text of a URL. -/
def write (u : Url) : String :=
  String.ofList (u.writeBeforeFragment ++ writePart '#' u.fragment)

/-- A URL without its user. -/
def withoutUser (u : Url) : Url :=
  { u with authority := u.authority.map fun a => { a with user := default } }

/-- What a request for a URL asks for: the URL without user and fragment. -/
def target (u : Url) : String := String.ofList u.withoutUser.writeBeforeFragment

/-- The host and port of a URL, with the port given. -/
def hostAndPort (defaultPort : Nat) (u : Url) : String :=
  match u.authority with
  | some a => String.ofList (a.host.write ++ writePort (some (a.port.getD defaultPort)))
  | none => ""

end Url
end HttpGet
