/-!
# Cutting the ends of a text

`trimEnd` removes the characters of one class from the end of a text, and `after?` reads a text past
a fixed beginning.
-/

namespace Switchboard.Text

/-- What is left of a list when the longest run of `drop` at its end is gone. -/
def dropEndWhile {α : Type} (drop : α → Bool) (xs : List α) : List α :=
  (xs.reverse.dropWhile drop).reverse

def trimEnd (drop : Char → Bool) (s : String) : String :=
  String.ofList (dropEndWhile drop s.toList)

/-- The rest of `xs` after `lead`, if `xs` begins with it. -/
def restAfter? : List Char → List Char → Option (List Char)
  | [], xs => some xs
  | _ :: _, [] => none
  | l :: lead, x :: xs => if l = x then restAfter? lead xs else none

def after? (lead s : String) : Option String :=
  (restAfter? lead.toList s.toList).map String.ofList

theorem restAfter?_eq_some_iff {lead xs rest : List Char} :
    restAfter? lead xs = some rest ↔ xs = lead ++ rest := by
  induction lead generalizing xs with
  | nil => simp [restAfter?, eq_comm]
  | cons l lead ih =>
    cases xs with
    | nil => simp [restAfter?]
    | cons x xs =>
      by_cases h : l = x
      · simp [restAfter?, h, ih]
      · simp [restAfter?, h, Ne.symm h]

theorem dropEndWhile_append_of_false {α : Type} {drop : α → Bool} (xs : List α) {x : α}
    (h : drop x = false) : dropEndWhile drop (xs ++ [x]) = xs ++ [x] := by
  simp [dropEndWhile, h]

theorem dropEndWhile_append_of_true {α : Type} {drop : α → Bool} (xs : List α) {x : α}
    (h : drop x = true) : dropEndWhile drop (xs ++ [x]) = dropEndWhile drop xs := by
  simp [dropEndWhile, h]

end Switchboard.Text
