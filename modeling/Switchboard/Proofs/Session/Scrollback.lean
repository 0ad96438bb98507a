import Switchboard.Session.Scrollback

/-!
# What a scrollback keeps

After any pushes a scrollback keeps the newest bytes of all that was pushed, and its counts say how
many there were and how many are gone.
-/

namespace Switchboard.Session

/-- Bytes that are not among the newest are not so later either. -/
theorem newest_newest_append (k : Nat) (as bs : Bytes) :
    newest k (newest k as ++ bs) = newest k (as ++ bs) := by
  by_cases short : as.length ≤ k
  · rw [newest_of_length_le short]
  · -- What `as` has lost lies before `k` bytes that are newer.
    have split : as ++ bs = as.take (as.length - k) ++ (newest k as ++ bs) := by
      rw [newest, ← List.append_assoc, List.take_append_drop]
    have long : k ≤ (newest k as ++ bs).length := by
      rw [List.length_append, length_newest]
      omega
    rw [split, newest_append_of_le _ long]

theorem newest_suffix (k : Nat) (bs : Bytes) : newest k bs <:+ bs := List.drop_suffix _ bs

namespace Scrollback

variable {s : Scrollback}

/-- A scrollback counts what was written, and only what does not fit is gone. -/
def Counted (s : Scrollback) : Prop := s.length = min s.capacity s.total

theorem counted_empty (capacity : Nat) : (empty capacity).Counted :=
  (Nat.min_eq_right (Nat.zero_le _)).symm

theorem length_push (s : Scrollback) (output : Bytes) :
    (s.push output).length = min s.capacity (s.length + output.length) := by
  rw [← length_retained, retained_push, length_newest, List.length_append, length_retained]

theorem Counted.push (c : s.Counted) (output : Bytes) : (s.push output).Counted := by
  unfold Counted at c ⊢
  rw [length_push, capacity_push, total_push, c]
  omega

theorem Counted.length_le (c : s.Counted) : s.length ≤ s.total := c ▸ Nat.min_le_right _ _

theorem Counted.dropped_add_length (c : s.Counted) : s.dropped + s.length = s.total :=
  Nat.sub_add_cancel c.length_le

/-! ### After many pushes -/

def pushAll (s : Scrollback) (outputs : List Bytes) : Scrollback := outputs.foldl push s

theorem Counted.pushAll (c : s.Counted) (outputs : List Bytes) : (s.pushAll outputs).Counted := by
  induction outputs generalizing s with
  | nil => exact c
  | cons output outputs ih => exact ih (c.push output)

theorem capacity_pushAll (s : Scrollback) (outputs : List Bytes) :
    (s.pushAll outputs).capacity = s.capacity := by
  induction outputs generalizing s with
  | nil => rfl
  | cons output outputs ih => exact ih (s.push output)

theorem total_pushAll (s : Scrollback) (outputs : List Bytes) :
    (s.pushAll outputs).total = s.total + outputs.flatten.length := by
  induction outputs generalizing s with
  | nil => rfl
  | cons output outputs ih =>
    have rest := ih (s.push output)
    rw [total_push] at rest
    rw [List.flatten_cons, List.length_append, ← Nat.add_assoc]
    exact rest

theorem retained_pushAll (full : s.retained.length ≤ s.capacity) (outputs : List Bytes) :
    (s.pushAll outputs).retained = newest s.capacity (s.retained ++ outputs.flatten) := by
  induction outputs generalizing s with
  | nil =>
    rw [List.flatten_nil, List.append_nil, newest_of_length_le full]
    rfl
  | cons output outputs ih =>
    have fits : (s.push output).retained.length ≤ (s.push output).capacity := by
      rw [length_retained]
      exact (s.push output).fits
    have rest := ih fits
    rw [capacity_push, retained_push, newest_newest_append, List.append_assoc] at rest
    exact rest

end Scrollback

end Switchboard.Session
