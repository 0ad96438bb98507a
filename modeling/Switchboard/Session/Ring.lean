import Switchboard.Session.Scrollback

/-!
# Rings

How the bytes of a scrollback lie in memory: in one buffer, which grows up to the capacity and is
then overwritten in a circle. Every place is checked before it is read or written: what would leave
a buffer, and a count that does not fit a machine word, gives nothing.
-/

namespace Switchboard.Session

/-- The bytes from one place up to another. -/
def slice? (bs : Bytes) (start stop : Nat) : Option Bytes :=
  if start ≤ stop ∧ stop ≤ bs.length then some ((bs.take stop).drop start) else none

/-- A buffer in which the bytes from one place up to another are replaced by as many others. -/
def copyInto? (buffer : Bytes) (start stop : Nat) (data : Bytes) : Option Bytes :=
  if start ≤ stop ∧ stop ≤ buffer.length ∧ data.length = stop - start then
    some (buffer.take start ++ data ++ buffer.drop stop)
  else none

def difference? (m n : Nat) : Option Nat := if n ≤ m then some (m - n) else none

def addWord? (word : UInt64) (n : Nat) : Option UInt64 :=
  if fits : word.toNat + n < UInt64.size then some (UInt64.ofNatLT (word.toNat + n) fits) else none

/-- A run of bytes in pieces of one size, the last of which may be shorter. -/
def pieces (size : Nat) (positive : 0 < size) : Bytes → List Bytes
  | [] => []
  | b :: bs => (b :: bs).take size :: pieces size positive ((b :: bs).drop size)
termination_by bs => bs.length
decreasing_by
  simp only [List.length_drop, List.length_cons]
  omega

structure Ring where
  capacity : Nat
  buffer : Bytes := []
  /-- Where the next byte is written once the buffer is full. -/
  head : Nat := 0
  /-- How many bytes were ever written. -/
  total : UInt64 := 0
deriving DecidableEq, Repr

namespace Ring

def empty (capacity : Nat) : Ring := { capacity := max 1 capacity }

/-- Overwrites the buffer from the head to its end, and what is left from its start. -/
def writePiece? (r : Ring) (piece : Bytes) : Option Ring := do
  let stop := r.head + piece.length
  let buffer ←
    if stop ≤ r.capacity then copyInto? r.buffer r.head stop piece
    else do
      let first ← difference? r.capacity r.head
      let buffer ← copyInto? r.buffer r.head r.buffer.length (← slice? piece 0 first)
      copyInto? buffer 0 (← difference? piece.length first) (← slice? piece first piece.length)
  return { r with buffer, head := stop % r.capacity }

def write? (r : Ring) (data : Bytes) : Option Ring :=
  if positive : 0 < r.capacity then (pieces r.capacity positive data).foldlM writePiece? r
  else none

/-- Adds output: what there is room for at the end of the buffer, and the rest from the head on. -/
def push? (r : Ring) (output : Bytes) : Option Ring := do
  let total ← addWord? r.total output.length
  let data ← slice? output (output.length - r.capacity) output.length
  let r := { r with total }
  if r.buffer.length < r.capacity then
    let room ← difference? r.capacity r.buffer.length
    let fitting := min data.length room
    let added ← slice? data 0 fitting
    let rest ← slice? data fitting data.length
    let r := { r with buffer := r.buffer ++ added }
    r.write? rest
  else r.write? data

/-- The bytes that are kept, in two parts of the buffer, oldest first. -/
def slices? (r : Ring) : Option (Bytes × Bytes) :=
  if r.buffer.length < r.capacity then some (r.buffer, [])
  else do return (← slice? r.buffer r.head r.buffer.length, ← slice? r.buffer 0 r.head)

def bytes? (r : Ring) : Option Bytes := r.slices?.map fun (older, newer) => older ++ newer

def length (r : Ring) : Nat := r.buffer.length

def dropped? (r : Ring) : Option Nat := difference? r.total.toNat r.length

end Ring

end Switchboard.Session
