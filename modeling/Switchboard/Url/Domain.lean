import Switchboard.Url.Idna.Class
import Switchboard.Url.Idna.Mapping
import Switchboard.Url.Punycode

/-!
# Domains in URLs

A domain is a sequence of labels with points between them. It is written in ASCII and in lower case;
a label with other characters is written in Punycode behind `xn--`. Labels that could not be told
apart or read are refused.
-/

namespace Switchboard.Url.Domain

def isForbidden (c : Char) : Bool :=
  decide (c.toNat ≤ 0x20 ∨ c.toNat = 0x7F) ||
    c ∈ ['%', '#', '/', ':', '<', '>', '?', '@', '[', '\\', ']', '^', '|']

def marker : List Nat := ['x', 'n', '-', '-'].map Char.toNat

def isWide (n : Nat) : Bool := 0x80 ≤ n

def longestLabel : Nat := 1000

def longestWritten : Nat := 2000

/-- Whether a label may stand in a domain, apart from its direction. -/
def isLabel (label : List Nat) : Bool :=
  label.all Idna.isStable && Idna.compose label == label && !label.head?.any Idna.isMark &&
    Idna.joinersFit [] label && (!label.any isWide || label.length ≤ longestLabel)

/-- The label that digits of Punycode write. It is not all ASCII, for then it has a plain form. -/
def readWritten? (written : List Nat) : Option (List Nat) :=
  if written.any isWide || longestWritten < written.length then none
  else
    (Punycode.decode? (written.map Char.ofNat)).filter fun label =>
      label.any isWide && isLabel label

def readLabel? (label : List Nat) : Option (List Nat) :=
  if marker.isPrefixOf label then readWritten? (label.drop marker.length)
  else if isLabel label then some label
  else none

def writeLabel (label : List Nat) : List Char :=
  if label.any isWide then marker.map Char.ofNat ++ Punycode.encode label
  else label.map Char.ofNat

def toAscii? (domain : List Char) : Option (List Char) := do
  let mapped ← Idna.mapAll? (domain.map Char.toNat)
  let labels ← ((Idna.compose mapped).splitOn '.'.toNat).mapM readLabel?
  let written := ['.'].intercalate (labels.map writeLabel)
  if written.any isForbidden then none
  else if Idna.isBidirectional labels && !labels.all Idna.hasDirection then none
  else some written

end Switchboard.Url.Domain
