import Switchboard.Url.Idna.ClassRows
import Switchboard.Url.Idna.Composition

/-!
# What may stand in a label

A label begins with no mark; a joiner stands only where it changes how letters look; and in a domain
with letters that are written from right to left, every label has one direction.
-/

namespace Switchboard.Url.Idna

def marks : List Item := readRows markRows

def spacingMarks : List Item := readRows spacingMarkRows

def rightToLeft : List Item := readRows rightToLeftRows

def arabicNumbers : List Item := readRows arabicNumberRows

def europeanNumbers : List Item := readRows europeanNumberRows

def neutrals : List Item := readRows neutralRows

def joiningLeft : List Item := readRows (leftJoiningRows ++ dualJoiningRows)

def joiningRight : List Item := readRows (rightJoiningRows ++ dualJoiningRows)

def furtherTransparent : List Item := readRows furtherTransparentRows

def isMark (n : Nat) : Bool := 0x300 ≤ n && holds marks n

def isNonspacing (n : Nat) : Bool := isMark n && !holds spacingMarks n

def isTransparent (n : Nat) : Bool := isNonspacing n || holds furtherTransparent n

inductive Direction where
  | left
  | right
  | europeanNumber
  | arabicNumber
  | neutral
  | nonspacing
deriving DecidableEq, Repr

def asciiDirection (n : Nat) : Direction :=
  let c := Char.ofNat n
  if c.isAlpha then .left else if c.isDigit then .europeanNumber else .neutral

def direction (n : Nat) : Direction :=
  if n < 0x80 then asciiDirection n
  else if isNonspacing n then .nonspacing
  else if holds rightToLeft n then .right
  else if holds arabicNumbers n then .arabicNumber
  else if holds europeanNumbers n then .europeanNumber
  else if holds neutrals n then .neutral
  else .left

def readsLeft (ds : List Direction) : Bool :=
  ds.head? == some .left && ds.all (fun d => d != .right && d != .arabicNumber) &&
    (ds.reverse.dropWhile (· == .nonspacing)).head?.any
      fun d => d == .left || d == .europeanNumber

def readsRight (ds : List Direction) : Bool :=
  ds.head? == some .right && ds.all (· != .left) &&
    !(ds.contains .europeanNumber && ds.contains .arabicNumber) &&
    (ds.reverse.dropWhile (· == .nonspacing)).head?.any
      fun d => d == .right || d == .europeanNumber || d == .arabicNumber

def hasDirection (label : List Nat) : Bool :=
  let ds := label.map direction
  ds.isEmpty || readsLeft ds || readsRight ds

def isBidirectional (labels : List (List Nat)) : Bool :=
  labels.any fun label => label.any fun n =>
    direction n == .right || direction n == .arabicNumber

def nonJoiner : Nat := 0x200C

def joiner : Nat := 0x200D

/-- The order class of the marks after which joiners may stand. -/
def viramaClass : Nat := 9

/-- Whether every joiner stands at a place where it may; `before` is what precedes, last character
first. -/
def joinersFit (before : List Nat) : List Nat → Bool
  | [] => true
  | n :: rest =>
    let afterVirama := before.head?.any fun b => orderClass b == viramaClass
    let between :=
      (before.dropWhile isTransparent).head?.any (holds joiningLeft) &&
        (rest.dropWhile isTransparent).head?.any (holds joiningRight)
    let fits :=
      if n = nonJoiner then afterVirama || between
      else if n = joiner then afterVirama
      else true
    fits && joinersFit (n :: before) rest

end Switchboard.Url.Idna
