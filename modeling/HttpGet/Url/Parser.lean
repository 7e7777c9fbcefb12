/-
Reading URLs.

A text is cut into its parts at fixed characters: the fragment at the first `#`, the query
at the first `?` before it, the scheme at the first colon.  What is left is authority and
path, and how the two are told apart depends on the scheme.

In the schemes of the web the backslash is a slash, any number of slashes may stand before
the authority, there has to be a host, and a URL can be read relative to another.

Tabs and line breaks do not count in a URL.  They are taken out of each part once the parts
are told apart; only in the path of a file one may still end a drive letter.
-/
import HttpGet.Url.File

namespace HttpGet.Url

/-- The schemes of the web, with their default ports. -/
def defaultPort? (scheme : List Char) : Option Nat :=
  if scheme = "http".toList then some 80
  else if scheme = "https".toList then some 443
  else if scheme = "ws".toList then some 80
  else if scheme = "wss".toList then some 443
  else if scheme = "ftp".toList then some 21
  else none

/-- How the URLs of a scheme are read. -/
def kindOf (scheme : List Char) : SchemeKind :=
  if (defaultPort? scheme).isSome then .web
  else if scheme = "file".toList then .file
  else .other

/-- Characters that do not count at the ends of a text. -/
def isMargin (c : Char) : Bool := c.toNat ≤ 0x20

/-- A text without what does not count at its ends. -/
def withoutMargins (s : List Char) : List Char :=
  ((s.dropWhile isMargin).reverse.dropWhile isMargin).reverse

/-- The main part of a text, its query and its fragment. -/
def cutParts (s : List Char) : List Char × Option (List Char) × Option (List Char) :=
  let (s, fragment) := cutAt (· = '#') s
  let (s, query) := cutAt (· = '?') s
  (s, query, fragment)

/-- Characters of a scheme after its first letter. -/
def inScheme (c : Char) : Bool := c.isAlphanum || c = '+' || c = '-' || c = '.'

/-- The scheme of a text in lower case, and the text after its colon. -/
def scheme? (s : List Char) : Option (List Char × List Char) :=
  match cutAt (· = ':') s with
  | (before, some rest) =>
    match clean before with
    | c :: name =>
      if c.isAlpha && name.all inScheme then some ((c :: name).map Char.toLower, rest) else none
    | [] => none
  | _ => none

/-! ### The authority -/

/-- The user before the last `@` of an authority. -/
def userOf (s : List Char) : UserInfo :=
  match cutAt (· = ':') s with
  | (name, password) =>
    ⟨Percent.encode Percent.notInUserInfo name,
      Percent.encode Percent.notInUserInfo (password.getD [])⟩

/-- The host and the port, at the first colon outside brackets. -/
def cutPort (inside : Bool) : List Char → List Char × Option (List Char)
  | [] => ([], none)
  | c :: rest =>
    if c = ':' && !inside then ([], some rest)
    else
      let (host, port) := cutPort (c = '[' || (inside && c ≠ ']')) rest
      (c :: host, port)

/-- The port that digits spell; the default port and no digits are no port. -/
def port? (scheme : List Char) (digits : List Char) : Option (Option Nat) :=
  let port := Nat.ofDigitChars 10 digits 0
  if 65535 < port then none
  else if digits.isEmpty || defaultPort? scheme = some port then some none
  else some (some port)

/-- The digits of a port, and what follows them; only a backslash may. -/
def cutDigits? (s : List Char) : Option (List Char × List Char) :=
  match s.dropWhile Char.isDigit with
  | [] => some (s, [])
  | c :: rest => if c = '\\' then some (s.takeWhile Char.isDigit, c :: rest) else none

/-- The authority that a text spells, and the beginning of the path that a backslash after
the port makes of the rest.  Without a host there is neither a user nor a port; `followed`
tells whether something follows the text, and then the host is not left out after an `@`
that begins it. -/
def authority? (scheme : List Char) (followed : Bool) (s : List Char) :
    Option (Authority × List Char) := do
  let (user?, hostAndPort) := cutAtLast (· = '@') s
  if user? = some [] && hostAndPort.isEmpty && followed then none
  let user := (user?.map userOf).getD default
  let (hostText, portText) := cutPort false hostAndPort
  let host ← if kindOf scheme = .other then Host.ofPlainText? hostText else Host.ofText? hostText
  let (digits, rest) ← cutDigits? (portText.getD [])
  let port ← port? scheme digits
  if host = .name [] && (portText.isSome || user ≠ default) then none
  return (⟨user, host, port⟩, rest)

/-! ### Authority and path -/

/-- The path after an authority.  Only outside the web it may be empty. -/
def pathAfterAuthority (kind : SchemeKind) (s : List Char) : Path :=
  if s.isEmpty && kind = .other then .segments []
  else .segments (segmentsFrom kind [] (afterSlash kind s))

/-- The query of a URL as it is kept. -/
def queryOf (kind : SchemeKind) (query : Option (List Char)) : Option (List Char) :=
  query.map (Percent.encode
    (if kind = .other then Percent.notInQuery else Percent.notInSpecialQuery))

/-- The fragment of a URL as it is kept. -/
def fragmentOf (fragment : Option (List Char)) : Option (List Char) :=
  fragment.map (Percent.encode Percent.notInFragment)

/-- Authority and path, from a text that begins with the authority; `more` tells whether a
query or a fragment follows the text. -/
def hierarchy? (scheme : List Char) (more : Bool) (s : List Char) :
    Option (Authority × Path) := do
  let kind := kindOf scheme
  let path := s.dropWhile (!isSlash kind ·)
  let (authority, rest) ← authority? scheme (more || !path.isEmpty) (s.takeWhile (!isSlash kind ·))
  return (authority, pathAfterAuthority kind (rest ++ path))

/-! ### Absolute URLs -/

/-- Authority and path, from the text after the scheme; `more` tells whether a query or a
fragment follows it. -/
def afterScheme? (scheme : List Char) (more : Bool) (s : List Char) :
    Option (Option Authority × Path) :=
  match kindOf scheme with
  | .web =>
    (hierarchy? scheme more ((clean s).dropWhile (isSlash .web))).map fun p => (some p.1, p.2)
  | .file => (file? s).map fun p => (some p.1, p.2)
  | .other =>
    match clean s with
    | '/' :: '/' :: rest => (hierarchy? scheme more rest).map fun p => (some p.1, p.2)
    | '/' :: rest => some (none, .segments (segmentsFrom .other [] rest))
    | s => some (none, .plain (Percent.encode Percent.isControl s))

/-- The URL of the parts of an absolute text. -/
def absolute? (scheme s : List Char) (query fragment : Option (List Char)) : Option Url := do
  let (authority, path) ← afterScheme? scheme (query.isSome || fragment.isSome) s
  return ⟨scheme, authority, path, queryOf (kindOf scheme) query, fragmentOf fragment⟩

/-- The URL that a text spells. -/
def parse? (text : String) : Option Url := do
  let (s, query, fragment) := cutParts (withoutMargins text.toList)
  let (scheme, s) ← scheme? s
  absolute? scheme s (query.map clean) (fragment.map clean)

/-! ### Relative URLs -/

/-- The segments of a path. -/
def segmentsOf : Path → List (List Char)
  | .segments s => s
  | .plain _ => []

/-- The URL of the parts of a text that is relative to a URL of the web. -/
def relative? (base : Url) (s : List Char) (query fragment : Option (List Char)) : Option Url :=
  let query' := queryOf .web query
  let fragment := fragmentOf fragment
  match s with
  | [] => some { base with query := if query.isSome then query' else base.query, fragment }
  | c :: rest =>
    if isSlash .web c then
      if (rest.head?.map (isSlash .web)).getD false then
        (hierarchy? base.scheme false (rest.dropWhile (isSlash .web))).map fun p =>
          { base with authority := some p.1, path := p.2, query := query', fragment }
      else
        some { base with
          path := .segments (segmentsFrom .web [] rest), query := query', fragment }
    else
      let inner := (segmentsOf base.path).dropLast.reverse
      some { base with
        path := .segments (segmentsFrom .web inner (c :: rest)), query := query', fragment }

/-- The URL that a text spells where `base`, a URL of the web, stands. -/
def join? (base : Url) (text : String) : Option Url :=
  let (s, query, fragment) := cutParts (withoutMargins text.toList)
  let (query, fragment) := (query.map clean, fragment.map clean)
  match scheme? s with
  | none => relative? base (clean s) query fragment
  | some (scheme, rest) =>
    let slashes := (clean rest).takeWhile (isSlash .web)
    if scheme = base.scheme && slashes.length < 2 then relative? base (clean rest) query fragment
    else absolute? scheme rest query fragment

end HttpGet.Url
