import Switchboard.Text.Utf8

/-!
# Scrollback

The newest bytes of a terminal's output, up to a capacity. They lie in a ring: `older` are the bytes
from the place of the next write to the end of the ring, `newer` those before it. `retained_push`:
a push keeps the newest bytes of what was kept and what was pushed.
-/

namespace Switchboard.Session

/-- The last `k` bytes of a run, or all if there are fewer. -/
def newest (k : Nat) (bs : Bytes) : Bytes := bs.drop (bs.length - k)

theorem length_newest (k : Nat) (bs : Bytes) : (newest k bs).length = min k bs.length := by
  simp only [newest, List.length_drop]; omega

theorem newest_of_length_le {k : Nat} {bs : Bytes} (h : bs.length ≤ k) : newest k bs = bs := by
  simp [newest, Nat.sub_eq_zero_of_le h]

theorem newest_append_of_le {k : Nat} (as : Bytes) {bs : Bytes} (h : k ≤ bs.length) :
    newest k (as ++ bs) = newest k bs := by
  rw [newest, List.length_append, Nat.add_sub_assoc h, ← List.drop_drop, List.drop_left, newest]

theorem newest_append_newest (k : Nat) (as bs : Bytes) :
    newest k (as ++ newest k bs) = newest k (as ++ bs) := by
  by_cases h : bs.length ≤ k
  · rw [newest_of_length_le h]
  · rw [newest_append_of_le as (by rw [length_newest]; omega), newest_append_of_le as (by omega),
      newest_of_length_le (by rw [length_newest]; omega)]

/-- The newest bytes of an output. -/
structure Scrollback where
  capacity : Nat
  older : Bytes
  newer : Bytes
  total : Nat
  positive : 0 < capacity
  fits : older.length + newer.length ≤ capacity
  newer_eq_nil_of_lt : older.length + newer.length < capacity → newer = []

namespace Scrollback

/-- A scrollback without bytes. Its capacity is at least one byte. -/
def empty (capacity : Nat) : Scrollback where
  capacity := max 1 capacity
  older := []
  newer := []
  total := 0
  positive := by omega
  fits := by simp
  newer_eq_nil_of_lt := by simp

def retained (s : Scrollback) : Bytes := s.older ++ s.newer

def length (s : Scrollback) : Nat := s.older.length + s.newer.length

def dropped (s : Scrollback) : Nat := s.total - s.length

/-- The ring `(older, newer)` after `data` has overwritten its oldest bytes, from the place of the
next write on and then from the start of the ring. -/
def overwrite (older newer data : Bytes) : Bytes × Bytes :=
  if data.length < older.length then (older.drop data.length, newer ++ data)
  else
    let ring := newer ++ data.take older.length
    let wrapped := data.drop older.length
    (ring.drop wrapped.length, wrapped)

theorem overwrite_append {older newer data : Bytes}
    (h : data.length ≤ older.length + newer.length) :
    (overwrite older newer data).1 ++ (overwrite older newer data).2 =
      (older ++ newer ++ data).drop data.length := by
  unfold overwrite
  split
  · rename_i hlt
    simp [List.drop_append, Nat.sub_eq_zero_of_le (Nat.le_of_lt hlt)]
  · rename_i hlt
    obtain ⟨first, wrapped, rfl, hfirst⟩ :
        ∃ first wrapped, data = first ++ wrapped ∧ first.length = older.length :=
      ⟨_, _, (List.take_append_drop older.length data).symm, by simp; omega⟩
    simp only [List.length_append] at h
    have hrhs : (older ++ newer ++ (first ++ wrapped)).drop (first ++ wrapped).length =
        (newer ++ first).drop wrapped.length ++ wrapped := by
      rw [List.length_append, hfirst, ← List.drop_drop, List.append_assoc older, List.drop_left,
        ← List.append_assoc newer, List.drop_append_of_le_length (by simp; omega)]
    rw [hrhs, List.take_left' hfirst, List.drop_left' hfirst]

theorem overwrite_length {older newer data : Bytes}
    (h : data.length ≤ older.length + newer.length) :
    (overwrite older newer data).1.length + (overwrite older newer data).2.length =
      older.length + newer.length := by
  have := congrArg List.length (overwrite_append h)
  simp only [List.length_append, List.length_drop] at this
  omega

/-- Adds output. Of a run longer than the ring only the newest bytes are written at all. -/
def push (s : Scrollback) (output : Bytes) : Scrollback :=
  let data := newest s.capacity output
  let room := s.capacity - s.length
  let grown := s.older ++ data.take room
  let ring := overwrite grown s.newer (data.drop room)
  have hroom : room = s.capacity - (s.older.length + s.newer.length) := rfl
  have hfits := s.fits
  have hdata : data.length ≤ s.capacity := by
    simp only [data, newest, List.length_drop]; omega
  have hgrown : grown.length = s.older.length + min room data.length := by
    simp [grown]
  have hle : (data.drop room).length ≤ grown.length + s.newer.length := by
    rw [hgrown, List.length_drop]; omega
  have hlen : ring.1.length + ring.2.length = grown.length + s.newer.length :=
    overwrite_length hle
  { capacity := s.capacity
    older := ring.1
    newer := ring.2
    total := s.total + output.length
    positive := s.positive
    fits := by rw [hlen, hgrown]; omega
    newer_eq_nil_of_lt := by
      intro hlt
      rw [hlen, hgrown] at hlt
      have hnil : s.newer = [] := s.newer_eq_nil_of_lt (by omega)
      have hdrop : data.drop room = [] := List.drop_eq_nil_of_le (by omega)
      simp only [ring, overwrite, hnil, hdrop]
      split <;> simp }

@[simp]
theorem capacity_push (s : Scrollback) (output : Bytes) : (s.push output).capacity = s.capacity :=
  rfl

@[simp]
theorem total_push (s : Scrollback) (output : Bytes) :
    (s.push output).total = s.total + output.length := rfl

theorem retained_push (s : Scrollback) (output : Bytes) :
    (s.push output).retained = newest s.capacity (s.retained ++ output) := by
  have hfits := s.fits
  have hdata := length_newest s.capacity output
  rw [← newest_append_newest]
  unfold retained push
  simp only
  generalize newest s.capacity output = data at hdata ⊢
  rw [overwrite_append
    (by simp only [List.length_append, List.length_take, List.length_drop, length]; omega)]
  rw [newest, List.length_drop, List.length_append, List.length_append, length]
  by_cases hroom : s.older.length + s.newer.length < s.capacity
  · have hnil : s.newer = [] := s.newer_eq_nil_of_lt hroom
    simp only [hnil, List.append_nil, List.append_assoc, List.take_append_drop, List.length_nil,
      Nat.add_zero]
    rw [hnil, List.length_nil] at hfits
    congr 1
    omega
  · rw [show s.capacity - (s.older.length + s.newer.length) = 0 by omega]
    simp only [List.take_zero, List.append_nil, List.drop_zero, Nat.sub_zero]
    congr 1
    omega

theorem length_retained (s : Scrollback) : s.retained.length = s.length := by
  simp [retained, length]

end Scrollback

end Switchboard.Session
