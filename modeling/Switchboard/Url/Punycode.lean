/-!
# Punycode

A label with characters beyond ASCII is written in ASCII: first its ASCII characters, then, behind a
hyphen, the others in ascending order, each as the number of places that lie between it and the
previous one. The numbers have digits of base 36, and their digits' thresholds adapt.
-/

namespace Switchboard.Url.Punycode

def digit (value : Nat) : Char := Char.ofNat (if value < 26 then 97 + value else 22 + value)

def digitValue? (c : Char) : Option Nat :=
  if 'a' ≤ c ∧ c ≤ 'z' then some (c.toNat - 97)
  else if '0' ≤ c ∧ c ≤ '9' then some (c.toNat - 22)
  else none

/-- The threshold of the digit at the place `k`, which counts by 36. -/
def threshold (bias k : Nat) : Nat := min 26 (max 1 (k - bias))

theorem threshold_pos (bias k : Nat) : 1 ≤ threshold bias k := by unfold threshold; omega

/-- Divides by 35 until at most 455 is left, and counts by 36. -/
def scale (delta k : Nat) : Nat × Nat :=
  if 455 < delta then scale (delta / 35) (k + 36) else (delta, k)
termination_by delta
decreasing_by omega

/-- The bias after a number; `points` characters have been written, and `isFirst` says whether the
number was the first one. -/
def adapt (delta points : Nat) (isFirst : Bool) : Nat :=
  let damped := if isFirst then delta / 700 else delta / 2
  let (rest, k) := scale (damped + damped / points) 0
  k + 36 * rest / (rest + 38)

def digits (bias k q : Nat) : List Char :=
  let t := threshold bias k
  if q < t then [digit q]
  else digit (t + (q - t) % (36 - t)) :: digits bias (k + 36) ((q - t) / (36 - t))
termination_by q
decreasing_by
  have h₁ := threshold_pos bias k
  have h₂ := Nat.div_le_self (q - threshold bias k) (36 - threshold bias k)
  omega

structure Writing where
  output : List Char
  delta : Nat := 0
  bias : Nat := 72
  written : Nat

/-- Passes by a character on the way to the places of `n`; `basic` is the number of ASCII
characters. -/
def Writing.pass (n basic : Nat) (w : Writing) (c : Nat) : Writing :=
  if c < n then { w with delta := w.delta + 1 }
  else if c = n then
    { output := w.output ++ digits w.bias 36 w.delta
      delta := 0
      bias := adapt w.delta (w.written + 1) (w.written == basic)
      written := w.written + 1 }
  else w

/-- Writes the characters of a label that are in `ns`, which ascend; `next` is the first character
that is not yet accounted for. -/
def writeAll (label : List Nat) (basic : Nat) (next : Nat) (w : Writing) : List Nat → Writing
  | [] => w
  | n :: ns =>
    let start := { w with delta := w.delta + (n - next) * (w.written + 1) }
    let done := label.foldl (Writing.pass n basic) start
    writeAll label basic (n + 1) { done with delta := done.delta + 1 } ns

def encode (label : List Nat) : List Char :=
  let basic := label.filter (· < 0x80)
  let others := ((label.filter (0x80 ≤ ·)).mergeSort (· ≤ ·)).eraseDups
  let front := basic.map Char.ofNat ++ (if basic.isEmpty then [] else ['-'])
  (writeAll label basic.length 0x80
    { output := front, written := basic.length } others).output

structure Reading where
  label : List Nat
  point : Nat := 0x80
  place : Nat := 0
  bias : Nat := 72
  start : Nat := 0
  weight : Nat := 1
  /-- The place of the next digit in its number; it counts by 36. -/
  k : Nat := 36

def isCharacter (n : Nat) : Bool := n < 0xD800 || (0xDFFF < n && n < 0x110000)

def Reading.take (r : Reading) (c : Char) : Option Reading := do
  let value ← digitValue? c
  let place := r.place + value * r.weight
  let t := threshold r.bias r.k
  if value < t then
    let size := r.label.length + 1
    let point := r.point + place / size
    let index := place % size
    if isCharacter point then
      return {
        label := r.label.take index ++ [point] ++ r.label.drop index
        point
        place := index + 1
        bias := adapt (place - r.start) size (r.start == 0)
        start := index + 1 }
    else none
  else return { r with place, weight := r.weight * (36 - t), k := r.k + 36 }

def split (cs : List Char) : List Char × List Char :=
  let tail := (cs.reverse.takeWhile (· != '-')).reverse
  let front := cs.take (cs.length - tail.length - 1)
  if front.isEmpty then ([], cs) else (front, tail)

def decode? (cs : List Char) : Option (List Nat) := do
  let (front, tail) := split cs
  let r ← tail.foldlM Reading.take { label := front.map Char.toNat }
  if r.k = 36 then return r.label else none

end Switchboard.Url.Punycode
