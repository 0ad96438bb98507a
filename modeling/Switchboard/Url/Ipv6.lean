import Switchboard.Url.Ipv4

/-!
# IPv6 addresses in URLs

Eight pieces of 16 bits in hexadecimal, between colons. One run of zero pieces may be left out
between two colons, and the last two pieces may be written as an IPv4 address.
-/

namespace Switchboard.Url

structure Ipv6 where
  pieces : List UInt16
deriving DecidableEq, Repr

namespace Ipv6

def piece? (cs : List Char) : Option UInt16 :=
  if cs.isEmpty || 4 < cs.length then none else (Ipv4.digits? 16 cs).map UInt16.ofNat

def byte? (cs : List Char) : Option Nat :=
  if Ipv4.isDecimal cs && (cs.length == 1 || cs.head? != some '0') then
    (Ipv4.digits? 10 cs).filter (· ≤ 255)
  else none

def embedded? (cs : List Char) : Option (List UInt16) := do
  match ← (cs.splitOn '.').mapM byte? with
  | [a, b, c, d] => return [UInt16.ofNat (a * 256 + b), UInt16.ofNat (c * 256 + d)]
  | _ => none

def last? (cs : List Char) : Option (List UInt16) :=
  if cs.contains '.' then embedded? cs else (piece? cs).map ([·])

/-- Reads pieces between colons, the last of which may be an embedded IPv4 address. -/
def tail? (cs : List Char) : Option (List UInt16) :=
  if cs.isEmpty then some []
  else do
    let parts := cs.splitOn ':'
    let pieces ← parts.dropLast.mapM piece?
    return pieces ++ (← last? (parts.getLast?.getD []))

def head? (cs : List Char) : Option (List UInt16) :=
  if cs.isEmpty then some [] else (cs.splitOn ':').mapM piece?

def splitGap : List Char → Option (List Char × List Char)
  | ':' :: ':' :: cs => some ([], cs)
  | c :: cs => (splitGap cs).map fun (before, after) => (c :: before, after)
  | [] => none

/-- Reads an address. Two colons in a row stand for at least one zero piece. -/
def read? (cs : List Char) : Option Ipv6 :=
  match splitGap cs with
  | none => do
    let pieces ← tail? cs
    if pieces.length = 8 then return ⟨pieces⟩ else none
  | some (before, after) => do
    let high ← head? before
    let low ← tail? after
    let given := high.length + low.length
    if given ≤ 7 then return ⟨high ++ List.replicate (8 - given) 0 ++ low⟩ else none

def longestZeros (pieces : List UInt16) : Nat × Nat :=
  (List.range pieces.length).foldl (fun best start =>
    let length := ((pieces.drop start).takeWhile (· == 0)).length
    if best.2 < length then (start, length) else best) (0, 0)

def join (pieces : List UInt16) : List Char :=
  [':'].intercalate (pieces.map fun p => Nat.toDigits 16 p.toNat)

/-- The text of an address. The first longest run of at least two zero pieces is left out. -/
def text (a : Ipv6) : String :=
  let (start, length) := longestZeros a.pieces
  String.ofList <|
    if length < 2 then join a.pieces
    else join (a.pieces.take start) ++ [':', ':'] ++ join (a.pieces.drop (start + length))

end Ipv6

end Switchboard.Url
