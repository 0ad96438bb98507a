import Switchboard.Url.Idna.CompositionRows

/-!
# Canonical composition

A character with marks can be written in several ways that mean the same. The composed form is the
one in which the marks stand in the order of their classes and everything that can be composed is
one character.
-/

namespace Switchboard.Url.Idna

def compositions : List Item := readRows compositionRows

def orderClasses : List Item := readRows orderRows

/-- The order class of a character; marks of one class keep their order. -/
def orderClass (n : Nat) : Nat :=
  if n < 0x300 then 0
  else (orderClasses.find? (·.covers n)).elim 0 fun item => item.target.headD 0

/-- The first Hangul syllable, leading consonant, vowel, and the place before the first trailing
consonant. -/
def hangulBase : Nat × Nat × Nat × Nat := (0xAC00, 0x1100, 0x1161, 0x11A7)

def hangulParts? (n : Nat) : Option (List Nat) :=
  let (syllable, lead, vowel, trail) := hangulBase
  if syllable ≤ n ∧ n < syllable + 19 * 21 * 28 then
    let i := n - syllable
    let front := [lead + i / (21 * 28), vowel + i / 28 % 21]
    some (if i % 28 = 0 then front else front ++ [trail + i % 28])
  else none

def hangulPair? (a b : Nat) : Option Nat :=
  let (syllable, lead, vowel, trail) := hangulBase
  if lead ≤ a ∧ a < lead + 19 ∧ vowel ≤ b ∧ b < vowel + 21 then
    some (syllable + ((a - lead) * 21 + (b - vowel)) * 28)
  else if syllable ≤ a ∧ a < syllable + 19 * 21 * 28 ∧ (a - syllable) % 28 = 0 ∧
      trail < b ∧ b < trail + 28 then
    some (a + (b - trail))
  else none

/-- The parts of a character; `depth` bounds how often a part is taken apart again. No character
below U+00C0 has parts. -/
def parts : Nat → Nat → List Nat
  | 0, n => [n]
  | depth + 1, n =>
    if n < 0xC0 then [n]
    else
      match hangulParts? n with
      | some ns => ns
      | none =>
        match (compositions.find? (·.covers n)).map (·.target) with
        | some [a, b] => parts depth a ++ [b]
        | _ => [n]

/-- The character that two characters are composed to. The second one is never below U+0300. -/
def pair? (a b : Nat) : Option Nat :=
  if b < 0x300 then none
  else
    match hangulPair? a b with
    | some n => some n
    | none => (compositions.find? (·.target == [a, b])).map (·.first)

/-- Puts a mark after characters, last one first, before the marks of higher classes. -/
def insertMark (n : Nat) : List Nat → List Nat
  | [] => [n]
  | x :: xs => if orderClass n < orderClass x then x :: insertMark n xs else n :: x :: xs

/-- Puts a character after characters, last one first; marks move to their places. -/
def place (before : List Nat) (n : Nat) : List Nat :=
  if orderClass n = 0 then n :: before else insertMark n before

structure Composing where
  done : List Nat := []
  head : Option Nat := none
  /-- The marks after it that were not composed, last one first. -/
  marks : List Nat := []

def Composing.close (s : Composing) : List Nat := s.marks ++ s.head.toList ++ s.done

/-- Takes in a character. It is composed with the head unless a mark of its class or of a higher
one stands between. -/
def Composing.take (s : Composing) (n : Nat) : Composing :=
  let blocked := match s.marks with
    | [] => false
    | m :: _ => orderClass n ≤ orderClass m
  match if blocked then none else s.head.bind fun h => pair? h n with
  | some composed => { s with head := some composed }
  | none =>
    if orderClass n = 0 then { done := s.close, head := some n }
    else { s with marks := n :: s.marks }

def compose (ns : List Nat) : List Nat :=
  let apart := ns.flatMap (parts 4)
  let ordered := (apart.foldl place []).reverse
  (ordered.foldl Composing.take {}).close.reverse

end Switchboard.Url.Idna
