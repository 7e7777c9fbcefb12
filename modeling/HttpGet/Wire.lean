/-
HTTP as bytes.

A request is a few lines of text.  A response is a status line, headers, an empty line, and a
body whose end its framing tells; notices, which have a head only, may come before it.  The
response itself tells its end by a length or by chunks; otherwise it goes on until the connection
is closed.  What comes after the end of a response is no part of it, and is told apart from it.
Lines may end without a carriage return.
-/
import HttpGet.Network

namespace HttpGet

/-- Whether a response tells its own end, and has come to it. -/
def Route.isDelimited (r : Route) : Bool := r.framing = .length || r.framing = .chunked

namespace Wire

/-- The bytes that ask for a URL. -/
def request (u : Url) : List UInt8 :=
  let host := (u.authority.map fun a => a.host.write ++ writePort a.port).getD []
  Utf8.encode ("GET " ++ u.pathAndQuery ++ " HTTP/1.1\r\naccept: */*\r\nhost: " ++
    String.ofList host ++ "\r\n\r\n")

/-! ### Lines -/

/-- The line feed. -/
def lineFeed : UInt8 := 0x0A

/-- The carriage return. -/
def carriageReturn : UInt8 := 0x0D

/-- The first line, without its end, and the bytes after it. -/
def line? (bytes : List UInt8) : Option (List UInt8 × List UInt8) :=
  match cutAt (· = lineFeed) bytes with
  | (line, some rest) =>
    some (if line.getLast? = some carriageReturn then line.dropLast else line, rest)
  | (_, none) => none

/-- Reading a line leaves less. -/
theorem length_of_line? {bytes line rest : List UInt8} (h : line? bytes = some (line, rest)) :
    rest.length < bytes.length := by
  unfold line? at h
  split at h
  · rename_i l r hc
    simp only [Option.some.injEq, Prod.mk.injEq] at h
    rw [← h.2]
    exact length_of_cutAt hc
  · simp at h

/-! ### Heads -/

/-- The decimal number that some bytes spell. -/
def decimal? (bytes : List UInt8) : Option Nat :=
  let digits := bytes.map fun b => Char.ofNat b.toNat
  if digits.isEmpty || !digits.all Char.isDigit then none
  else some (Nat.ofDigitChars 10 digits 0)

/-- The versions of the protocol. -/
inductive Version where
  | http10
  | http11
deriving DecidableEq, Repr

/-- The name of a version. -/
def Version.name : Version → List UInt8
  | http10 => Utf8.encode "HTTP/1.0"
  | http11 => Utf8.encode "HTTP/1.1"

/-- The version of a name. -/
def version? (name : List UInt8) : Option Version :=
  [Version.http10, .http11].find? (·.name = name)

/-- The version and the status of a status line. -/
def status? (line : List UInt8) : Option (Version × Nat) :=
  match splitWhere (· = 0x20) line with
  | name :: code :: _ => do
    let version ← version? name
    let status ← decimal? code
    if code.length = 3 && 100 ≤ status then some (version, status) else none
  | _ => none

/-- Bytes of the name of a header. -/
def isNameByte (b : UInt8) : Bool :=
  b < 0x80 && ((Char.ofNat b.toNat).isAlphanum || b ∈ Utf8.encode "!#$%&'*+-.^_\x60|~")

/-- Bytes of the value of a header. -/
def isValueByte (b : UInt8) : Bool := b = 0x09 || (0x20 ≤ b && b ≠ 0x7F)

/-- The name and the value of a header line. -/
def header? (line : List UInt8) : Option (List UInt8 × List UInt8) :=
  match cutAt (· = 0x3A) line with
  | (name, some value) =>
    if !name.isEmpty && name.all isNameByte && value.all isValueByte then some (name, value)
    else none
  | _ => none

/-- The headers up to the empty line, and the bytes after it. -/
def headers? (bytes : List UInt8) : Option (List (List UInt8 × List UInt8) × List UInt8) :=
  match h : line? bytes with
  | none => none
  | some (line, rest) =>
    have : rest.length < bytes.length := length_of_line? h
    if line.isEmpty then some ([], rest)
    else
      match header? line, headers? rest with
      | some header, some (headers, rest) => some (header :: headers, rest)
      | _, _ => none
termination_by bytes.length

/-- Reading headers leaves less. -/
theorem length_of_headers? {bytes rest : List UInt8} {headers : List (List UInt8 × List UInt8)}
    (h : headers? bytes = some (headers, rest)) : rest.length < bytes.length := by
  fun_induction headers? bytes generalizing headers rest with
  | case1 => simp at h
  | case2 bytes line rest' hline hlength hempty =>
      simp only [Option.some.injEq, Prod.mk.injEq] at h
      exact h.2 ▸ hlength
  | case3 bytes line rest' hline hlength hempty header headers' rest'' hrest hheader ih =>
      simp only [Option.some.injEq, Prod.mk.injEq] at h
      exact h.2 ▸ Nat.lt_trans (ih hrest) hlength
  | case4 => simp at h

/-- The values of all headers of a name, which is given in lower case, where commas separate
values too. -/
def values (name : String) (r : Route) : List (List UInt8) :=
  (r.headers.filter fun h => h.1.map Route.lower = Utf8.encode name).flatMap fun h =>
    (splitWhere (· = 0x2C) h.2).map Route.trim

/-- Whether a value is a word, which is given in lower case. -/
def isWord (word : String) (value : List UInt8) : Bool := value.map Route.lower = Utf8.encode word

/-- Whether the headers of a response let its connection stay open.  Without a header, only that of
the later version does. -/
def keepsAlive (version : Version) (r : Route) : Bool :=
  match version with
  | .http10 => (values "connection" r).any (isWord "keep-alive")
  | .http11 => !(values "connection" r).any (isWord "close")

/-! ### Bodies -/

/-- How the end of a body is announced. -/
inductive Ending where
  | length (n : Nat)
  | close
  | chunked
deriving DecidableEq, Repr

/-- How the headers of a response announce the end of its body.  Chunks have to be the last coding,
and lengths have to agree. -/
def ending? (version : Version) (r : Route) : Option Ending :=
  match (values "transfer-encoding" r).getLast?, values "content-length" r with
  | some coding, _ =>
    match version with
    | .http10 => none
    | .http11 => some (if isWord "chunked" coding then .chunked else .close)
  | none, [] => some .close
  | none, length :: lengths => do
    let n ← decimal? length
    if lengths.all (decimal? · = some n) then some (.length n) else none

/-- The bytes after a trailer, which is lines up to an empty one. -/
def afterTrailer? (bytes : List UInt8) : Option (List UInt8) :=
  match h : line? bytes with
  | none => none
  | some (line, rest) =>
    have : rest.length < bytes.length := length_of_line? h
    if line.isEmpty then some rest else afterTrailer? rest
termination_by bytes.length

/-- The data of chunks, and the bytes after the last one and the trailer, if they have come. -/
def chunks (bytes : List UInt8) : List UInt8 × Option (List UInt8) :=
  match h : line? bytes with
  | none => ([], none)
  | some (line, rest) =>
    have : rest.length < bytes.length := length_of_line? h
    let digits := (Utf8.decodeLossy line).toList.takeWhile fun c => (hexValue? c).isSome
    match digits.isEmpty, hexNumber? digits with
    | false, some 0 => ([], afterTrailer? rest)
    | false, some size =>
      let data := rest.take size
      match h : line? (rest.drop size) with
      | none => (data, none)
      | some (_, after) =>
        have : after.length < (rest.drop size).length := length_of_line? h
        have : (rest.drop size).length ≤ rest.length := by simp
        let (more, rest?) := chunks after
        (data ++ more, rest?)
    | _, _ => ([], none)
termination_by bytes.length

/-- A response whose head has been read, with the body that `bytes` begin with, and the bytes
after it. -/
def withBody (r : Route) (bytes : List UInt8) : Ending → Route × List UInt8
  | .length n =>
    ({ r with body := bytes.take n, framing := if n ≤ bytes.length then .length else .short },
      bytes.drop n)
  | .close => ({ r with body := bytes, framing := .close }, [])
  | .chunked =>
    match chunks bytes with
    | (body, some rest) => ({ r with body, framing := .chunked }, rest)
    | (body, none) => ({ r with body, framing := .short }, [])

/-! ### Responses -/

/-- A response that has been read, whether its server keeps the connection for another request
after it, and the bytes after it. -/
structure Message where
  route : Route
  persists : Bool
  rest : List UInt8
deriving DecidableEq, Repr

/-- Whether a status is that of a notice, after which the response is still to come. -/
def isNotice (status : Nat) : Bool := status < 200 && status ≠ 101

/-- The version of the response that bytes spell, its head, and the bytes after it. -/
def head? (bytes : List UInt8) : Option (Version × Route × List UInt8) :=
  match hline : line? bytes with
  | none => none
  | some (line, fields) =>
    match status? line, hfields : headers? fields with
    | some (version, status), some (headers, rest) =>
      have : rest.length < bytes.length :=
        Nat.lt_trans (length_of_headers? hfields) (length_of_line? hline)
      if isNotice status then head? rest else some (version, ⟨status, headers, [], .close⟩, rest)
    | _, _ => none
termination_by bytes.length

/-- The response that bytes spell. -/
def message? (bytes : List UInt8) : Option Message := do
  let (version, head, rest) ← head? bytes
  let ending ← if head.hasBody then ending? version head else some (.length 0)
  let (route, rest) := withBody head rest ending
  return ⟨route, keepsAlive version head && route.isDelimited, rest⟩

end Wire
end HttpGet
