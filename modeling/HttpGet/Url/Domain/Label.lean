/-
The labels of host names.

A label is a part of a mapped name between dots.  One that begins with the mark of Punycode
stands for another one, which needs Punycode and is already mapped; every other label
stands for itself.  A label with characters beyond ASCII does not begin with a mark of a
letter that is not there, and has joiners only where they fit.  It is written in Punycode.
-/
import HttpGet.Url.Domain.Mapping
import HttpGet.Url.Punycode

namespace HttpGet.Domain

/-- What begins a label that is written in Punycode. -/
def codeMark : List Char := ['x', 'n', '-', '-']

/-- The longest Punycode that is read. -/
def maxCode : Nat := 2000

/-- The most characters of a label that Punycode is written for. -/
def maxLabel : Nat := 1000

/-- The label that Punycode stands for. -/
def decoded? (code : List Char) : Option (List Char) := do
  if maxCode < code.length || !code.all Punycode.isBasic then none
  let label ← Punycode.decode? code
  if label.any (!Punycode.isBasic ·) && mapped? label = some label && Punycode.encode label = code
  then some label
  else none

/-- The label that a part of a mapped name stands for. -/
def label? (part : List Char) : Option (List Char) :=
  if codeMark.isPrefixOf part then decoded? (part.drop codeMark.length) else some part

/-- Whether a label can be written in ASCII. -/
def isWritable (label : List Char) : Bool :=
  label.all Punycode.isBasic ||
    (!(label.head?.map isMark).getD false && joinersFit [] label && label.length ≤ maxLabel)

/-- A label in ASCII. -/
def writeLabel (label : List Char) : List Char :=
  if label.all Punycode.isBasic then label else codeMark ++ Punycode.encode label

end HttpGet.Domain
