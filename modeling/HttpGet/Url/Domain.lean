/-
Host names.

A name is mapped, cut into its labels at the dots, and each label is read; then its labels
are written in ASCII.  The ASCII form is that of a host if nothing in it would end the host
or hide it.
-/
import HttpGet.Text.Split
import HttpGet.Url.Domain.Direction
import HttpGet.Url.Domain.Label

namespace HttpGet.Domain

/-- ASCII characters that may not stand in a host name. -/
def forbidden (c : Char) : Bool :=
  c.toNat ≤ 0x20 || c.toNat = 0x7F ||
    c ∈ ['#', '/', ':', '<', '>', '?', '@', '[', '\\', ']', '^', '|', '%']

/-- The labels of a name. -/
def labels? (name : List Char) : Option (List (List Char)) := do
  let labels ← (splitWhere (· = '.') (← mapped? name)).mapM label?
  if labels.all isWritable && keepDirection labels then some labels else none

/-- The ASCII form of a name. -/
def toAscii? (name : List Char) : Option (List Char) := do
  let ascii := joinWith ['.'] ((← labels? name).map writeLabel)
  if ascii.isEmpty || ascii.any forbidden then none else some ascii

end HttpGet.Domain
