/-
What requests ask for.

A request asks for a URL without its user and its fragment.  Not every URL can be asked for: its
scheme has to be one of the web, and a request has to be able to name it.  What a request names
is a text that is not too long, and either a scheme with an authority and what comes after it,
or an authority alone.  So it cannot name a host with a character that no authority has, nor a
URL of another scheme that says nothing of a host, unless its text happens to be an authority.
-/
import HttpGet.Url.Basic

namespace HttpGet

/-! ### Authorities -/

/-- What has been read of an authority: the colons, and whether there is a percent sign, since
the last user or address in brackets, and the brackets. -/
structure AuthorityScan where
  colons : Nat
  percent : Bool
  opened : Bool
  closed : Bool
deriving DecidableEq, Repr

namespace AuthorityScan

/-- Nothing has been read. -/
def start : AuthorityScan := ⟨0, false, false, false⟩

/-- Characters of an authority that mark no part of it. -/
def isPlain (c : Char) : Bool := c.isAlphanum || c ∈ "!$&'()*+,-.;=_~".toList

/-- Read a character of an authority. -/
def step (s : AuthorityScan) (c : Char) : Option AuthorityScan :=
  match c with
  | ':' => if s.colons < 8 then some { s with colons := s.colons + 1 } else none
  | '@' => some { s with colons := 0, percent := false }
  | '%' => some { s with percent := true }
  | '[' => if s.opened || s.percent then none else some { s with opened := true }
  | ']' =>
    if s.opened && !s.closed then some { s with colons := 0, percent := false, closed := true }
    else none
  | c => if isPlain c then some s else none

/-- Whether an authority may end here: at most a port follows the host, which has no percent
sign. -/
def mayEnd (s : AuthorityScan) : Bool := s.colons ≤ 1 && !s.percent && s.opened = s.closed

end AuthorityScan

/-- Whether a text is an authority that a request can name. -/
def isAuthorityText (s : List Char) : Bool :=
  ((s.foldlM AuthorityScan.step AuthorityScan.start).any (·.mayEnd)) && s.getLast? ≠ some '@'

namespace Url

/-! ### What is asked for -/

/-- What of a URL is asked for: everything but user and fragment. -/
def forRequest (u : Url) : Url := { u.withoutUser with fragment := none }

/-- Whether the bytes that a text in percent encoding stands for are UTF-8. -/
def isUtf8 (s : List Char) : Bool := (Utf8.decode? (Percent.decode s)).isSome

/-- A URL as messages show it.  Its user is taken off, unless the name is not UTF-8, or
there is no name and the password is not. -/
def shown (u : Url) : Url :=
  match u.authority with
  | none => u
  | some a =>
    if isUtf8 a.user.name && (!a.user.name.isEmpty || isUtf8 a.user.password) then u.withoutUser
    else u

/-- Where a URL is: its scheme, and the host and the port. -/
def origin (u : Url) : String :=
  String.ofList (u.scheme ++ [':'] ++ match u.authority with
    | some a => ['/', '/'] ++ a.host.write ++ writePort a.port
    | none => u.path.guard)

/-- What a request asks the server of a URL for: the path and the query. -/
def pathAndQuery (u : Url) : String := String.ofList (u.path.write ++ writePart '?' u.query)

/-- What a request asks for is where the URL is, and its path and query there. -/
theorem origin_append_pathAndQuery (u : Url) : u.origin ++ u.pathAndQuery = u.target := by
  obtain ⟨scheme, authority, path, query, fragment⟩ := u
  rw [origin, pathAndQuery, target, ← String.ofList_append]
  cases authority with
  | none => simp [withoutUser, writeBeforeFragment]
  | some a =>
    simp [withoutUser, writeBeforeFragment, Authority.write, UserInfo.write, default]

/-! ### What can be asked for -/

/-- Characters that a host may not have in a request. -/
def unsendable (c : Char) : Bool := c ∈ ['"', '`', '{', '}', '%']

/-- Whether a request can name a host. -/
def isSendable (h : Host) : Bool := !h.write.isEmpty && !h.write.any unsendable

/-- The longest text that a request can name. -/
def lengthLimit : Nat := 65534

/-- The longest scheme that stands before an authority. -/
def schemeLimit : Nat := 64

/-- Whether a request can name a URL. -/
def isNameable (u : Url) : Bool :=
  u.write.utf8ByteSize ≤ lengthLimit &&
    match u.authority with
    | some a => u.scheme.length ≤ schemeLimit && isSendable a.host
    | none => isAuthorityText u.write.toList

/-- Whether the scheme is that of requests. -/
def isHttp (u : Url) : Bool := u.scheme = "http".toList || u.scheme = "https".toList

/-- Whether a URL can be asked for. -/
def isRequestable (u : Url) : Bool := u.isHttp && u.isNameable

/-- Whether a request for a URL goes through a tunnel. -/
def isSecure (u : Url) : Bool := u.scheme = "https".toList

/-- The line of the request for a URL. -/
def requestLine (u : Url) : String :=
  if u.isSecure then "CONNECT " ++ u.hostAndPort 443 else "GET " ++ u.target

/-- A mailbox has the form of an authority, and a text of data does not. -/
example : (Url.mk "mailto".toList none (.plain "a@b.test".toList) none none).isNameable = true ∧
    (Url.mk "data".toList none (.plain "text/plain,a".toList) none none).isNameable = false ∧
    (Url.mk "file".toList (some ⟨default, .name [], none⟩) (.segments ["a".toList]) none
      none).isNameable = false := by decide +kernel

end Url
end HttpGet
