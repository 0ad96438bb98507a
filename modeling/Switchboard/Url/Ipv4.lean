import Switchboard.Number.Decimal
import Switchboard.Url.Percent

/-!
# IPv4 addresses in URLs

A domain whose last label is a number names an IPv4 address. Its labels may be decimal, octal or
hexadecimal numbers; there may be fewer than four, and then the last one fills the bytes that are
left.
-/

namespace Switchboard.Url

structure Ipv4 where
  value : UInt32
deriving DecidableEq, Repr

namespace Ipv4

def digits? (base : Nat) (cs : List Char) : Option Nat :=
  cs.foldlM (fun acc c => (hexValue? c).bind fun d =>
    if d < base then some (acc * base + d) else none) 0

/-- Reads a label as a number: `0x` begins a hexadecimal and `0` an octal one. -/
def number? : List Char → Option Nat
  | [] => none
  | '0' :: 'x' :: cs | '0' :: 'X' :: cs => digits? 16 cs
  | '0' :: c :: cs => digits? 8 (c :: cs)
  | cs => digits? 10 cs

def isDecimal (label : List Char) : Bool := !label.isEmpty && label.all Char.isDigit

def labels (domain : List Char) : List (List Char) :=
  let all := domain.splitOn '.'
  if all.getLast? = some [] then all.dropLast else all

def isMeant (domain : List Char) : Bool :=
  (labels domain).getLast?.any fun last => isDecimal last || (number? last).isSome

/-- The address with these numbers: all but the last one are bytes, and the last one fills the
rest. -/
def ofNumbers? (numbers : List Nat) : Option Ipv4 := do
  let last ← numbers.getLast?
  let bytes := numbers.dropLast
  if numbers.length ≤ 4 ∧ bytes.all (· ≤ 255) ∧ last < Nat.pow 256 (4 - bytes.length) then
    let high := bytes.foldl (· * 256 + ·) 0
    return ⟨UInt32.ofNat (high * Nat.pow 256 (4 - bytes.length) + last)⟩
  else none

def read? (domain : List Char) : Option Ipv4 :=
  ((labels domain).mapM number?).bind ofNumbers?

def text (a : Ipv4) : String :=
  let n := a.value.toNat
  ".".intercalate
    ([n / Nat.pow 256 3, n / Nat.pow 256 2 % 256, n / 256 % 256, n % 256].map Number.decimal)

end Ipv4

end Switchboard.Url
