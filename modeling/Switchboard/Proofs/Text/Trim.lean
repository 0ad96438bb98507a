import Mathlib.Data.List.DropRight
import Switchboard.Text.Trim

/-!
# Ends and beginnings of a text

`Trims` says what it means to cut the characters of a class from the end of a text, and
`trimEnd_eq_iff` that `trimEnd` does so. A fixed beginning is read off exactly if the text has it.
-/

namespace Switchboard.Text

variable {drop : Char → Bool} {s body rest : String}

/-- A text is `body` with characters of a class behind it, and `body` does not end with one. -/
structure Trims (drop : Char → Bool) (s body : String) : Prop where
  text : ∃ tail : String, s = body ++ tail ∧ ∀ c ∈ tail.toList, drop c = true
  ends : ∀ c, body.toList.getLast? = some c → drop c = false

theorem dropEndWhile_eq (drop : Char → Bool) (cs : List Char) :
    dropEndWhile drop cs = cs.rdropWhile drop := rfl

theorem dropEndWhile_append_of_all (cs : List Char) {tail : List Char}
    (all : ∀ c ∈ tail, drop c = true) : dropEndWhile drop (cs ++ tail) = dropEndWhile drop cs := by
  induction tail using List.reverseRecOn with
  | nil => rw [List.append_nil]
  | append_singleton tail c ih =>
    have last : drop c = true := all c (by simp)
    rw [← List.append_assoc, dropEndWhile_append_of_true _ last]
    exact ih fun c mem => all c (List.mem_append_left _ mem)

theorem dropEndWhile_eq_self_iff {cs : List Char} :
    dropEndWhile drop cs = cs ↔ ∀ c, cs.getLast? = some c → drop c = false := by
  rcases List.eq_nil_or_concat cs with rfl | ⟨init, last, rfl⟩
  · simp [dropEndWhile_eq]
  · simp [dropEndWhile_eq]

theorem trims_trimEnd (drop : Char → Bool) (s : String) : Trims drop s (trimEnd drop s) where
  text := by
    refine ⟨String.ofList (s.toList.rtakeWhile drop), ?_, fun c mem => ?_⟩
    · rw [trimEnd, dropEndWhile_eq, ← String.ofList_append, List.rdropWhile_append_rtakeWhile,
        String.ofList_toList]
    · rw [String.toList_ofList] at mem
      exact List.mem_rtakeWhile_imp mem
  ends := by
    rw [trimEnd, String.toList_ofList, ← dropEndWhile_eq_self_iff]
    exact List.rdropWhile_idempotent drop s.toList

theorem Trims.eq (t : Trims drop s body) : trimEnd drop s = body := by
  obtain ⟨tail, rfl, all⟩ := t.text
  rw [trimEnd, String.toList_append, dropEndWhile_append_of_all _ all,
    dropEndWhile_eq_self_iff.mpr t.ends, String.ofList_toList]

/-- What stands before does not matter if something is left, or if it keeps its own end. -/
theorem Trims.append (t : Trims drop s body) {lead : String}
    (kept : body ≠ "" ∨ ∀ c, lead.toList.getLast? = some c → drop c = false) :
    Trims drop (lead ++ s) (lead ++ body) where
  text := by
    obtain ⟨tail, rfl, all⟩ := t.text
    exact ⟨tail, (String.append_assoc ..).symm, all⟩
  ends c last := by
    rw [String.toList_append] at last
    by_cases none : body = ""
    · rw [none, String.toList_empty, List.append_nil] at last
      exact kept.resolve_left (not_not_intro none) c last
    · rw [List.getLast?_append_of_ne_nil _ fun empty => none (String.toList_inj.mp empty)] at last
      exact t.ends c last

theorem trimEnd_append_of_all (s : String) {tail : String}
    (all : ∀ c ∈ tail.toList, drop c = true) : trimEnd drop (s ++ tail) = trimEnd drop s := by
  rw [trimEnd, String.toList_append, dropEndWhile_append_of_all _ all, trimEnd]

theorem trimEnd_eq_iff : trimEnd drop s = body ↔ Trims drop s body :=
  ⟨fun same => same ▸ trims_trimEnd drop s, Trims.eq⟩

theorem after?_eq_some_iff {lead : String} : after? lead s = some rest ↔ s = lead ++ rest := by
  rw [after?, Option.map_eq_some_iff]
  constructor
  · rintro ⟨cs, split, rfl⟩
    rw [← String.toList_inj, String.toList_append, String.toList_ofList]
    exact restAfter?_eq_some_iff.mp split
  · rintro rfl
    refine ⟨rest.toList, ?_, String.ofList_toList⟩
    rw [restAfter?_eq_some_iff, String.toList_append]

end Switchboard.Text
