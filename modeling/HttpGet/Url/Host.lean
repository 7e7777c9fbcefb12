/-
Hosts of URLs.

A host is a name or an address.  In the URLs of the web a name is decoded and mapped to
ASCII, and one that ends in a number has to be an address; in other URLs a name is kept
as it is, save for percent encoding.
-/
import HttpGet.Text.Utf8
import HttpGet.Url.Address
import HttpGet.Url.Domain
import HttpGet.Url.Percent

namespace HttpGet

/-- A host: a name or an address. -/
inductive Host where
  | name (s : List Char)
  | v4 (a : Ipv4)
  | v6 (a : Ipv6)
deriving DecidableEq, Repr

namespace Host

/-- The text of a host. -/
def write : Host → List Char
  | name s => s
  | v4 a => a.write
  | v6 a => '[' :: a.write ++ [']']

/-- An address in brackets, whose opening bracket has been read. -/
def bracketed? (s : List Char) : Option Host :=
  if s.getLast? = some ']' then (Ipv6.ofText? s.dropLast).map .v6 else none

/-- The host of a URL of the web. -/
def ofText? : List Char → Option Host
  | '[' :: rest => bracketed? rest
  | s => do
    let name ← Utf8.decode? (Percent.decode s)
    let ascii ← Domain.toAscii? name.toList
    if Ipv4.endsInNumber ascii then (Ipv4.ofHost? ascii).map .v4 else some (.name ascii)

/-- The host of any other URL; it may be empty.  Controls are encoded, save for NUL. -/
def ofPlainText? : List Char → Option Host
  | '[' :: rest => bracketed? rest
  | s =>
    let refused (c : Char) : Bool :=
      c = '\x00' || (Domain.forbidden c && !Percent.isControl c && c ≠ '%')
    if s.any refused then none
    else some (.name (Percent.encode Percent.isControl s))

end Host
end HttpGet
