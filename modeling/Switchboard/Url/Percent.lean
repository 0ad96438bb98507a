import Switchboard.Text.Utf8

/-!
# Percent-encoding

A character that may not stand at its place in a URL is written as its UTF-8 bytes, each as `%` and
two hexadecimal digits. Which characters those are depends on the place.
-/

namespace Switchboard.Url

def hexDigit (n : Nat) : Char := if n < 10 then Char.ofNat (48 + n) else Char.ofNat (55 + n)

def hexValue? (c : Char) : Option Nat :=
  if '0' ≤ c ∧ c ≤ '9' then some (c.toNat - 48)
  else if 'A' ≤ c ∧ c ≤ 'F' then some (c.toNat - 55)
  else if 'a' ≤ c ∧ c ≤ 'f' then some (c.toNat - 87)
  else none

abbrev EncodeSet := Char → Bool

def EncodeSet.control : EncodeSet := fun c => decide (c.toNat < 0x20 ∨ 0x7F ≤ c.toNat)

def EncodeSet.query : EncodeSet := fun c =>
  control c || c ∈ [' ', '"', '#', '<', '>']

def EncodeSet.specialQuery : EncodeSet := fun c => query c || c == '\''

def EncodeSet.path : EncodeSet := fun c => query c || c ∈ ['?', '`', '\x7b', '\x7d']

def EncodeSet.userinfo : EncodeSet := fun c =>
  path c || c ∈ ['/', ':', ';', '=', '@', '[', '\\', ']', '^', '|']

def encodeByte (b : UInt8) : List Char :=
  ['%', hexDigit (b.toNat / 16), hexDigit (b.toNat % 16)]

def encodeChar (set : EncodeSet) (c : Char) : List Char :=
  if set c then (String.utf8EncodeChar c).flatMap encodeByte else [c]

def encode (set : EncodeSet) (cs : List Char) : List Char := cs.flatMap (encodeChar set)

def hexPair? (a b : UInt8) : Option UInt8 := do
  let high ← hexValue? (Char.ofNat a.toNat)
  let low ← hexValue? (Char.ofNat b.toNat)
  return UInt8.ofNat (high * 16 + low)

def percentSign : UInt8 := 0x25

/-- The bytes that are left when every percent sign with two hexadecimal digits after it is read as
the byte that it encodes. -/
def decode : Bytes → Bytes
  | p :: a :: b :: rest =>
    match if p = percentSign then hexPair? a b else none with
    | some byte => byte :: decode rest
    | none => p :: decode (a :: b :: rest)
  | bs => bs
termination_by bs => bs.length

end Switchboard.Url
