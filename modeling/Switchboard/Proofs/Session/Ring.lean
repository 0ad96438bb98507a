import Mathlib.Algebra.Group.Nat.Defs
import Switchboard.Proofs.Session.Scrollback
import Switchboard.Session.Ring

/-!
# A ring never leaves its buffer

Whatever is pushed, no read, write or count of a ring fails as long as the count of bytes fits a
machine word, and the ring's buffer is the scrollback: the newer bytes up to the head, then the
older.
-/

namespace Switchboard.Session

variable {bs data piece : Bytes} {older newer : Bytes} {start stop n : Nat}

/-! ### Places inside a buffer -/

theorem slice?_of_le (ordered : start ≤ stop) (inside : stop ≤ bs.length) :
    slice? bs start stop = some ((bs.take stop).drop start) :=
  if_pos ⟨ordered, inside⟩

theorem slice?_take (inside : n ≤ bs.length) : slice? bs 0 n = some (bs.take n) :=
  slice?_of_le (Nat.zero_le n) inside

theorem slice?_drop (inside : n ≤ bs.length) : slice? bs n bs.length = some (bs.drop n) := by
  rw [slice?_of_le inside (Nat.le_refl _), List.take_length]

/-- Copying over the middle of a buffer keeps what lies before and after it. -/
theorem copyInto?_append (before after : Bytes) {old new : Bytes}
    (same : new.length = old.length) :
    copyInto? (before ++ old ++ after) before.length (before.length + old.length) new =
      some (before ++ new ++ after) := by
  have inside : before.length + old.length ≤ (before ++ old ++ after).length := by
    simp only [List.length_append]
    omega
  have left : (before ++ old ++ after).take before.length = before := by
    rw [List.append_assoc, List.take_left]
  have right : (before ++ old ++ after).drop (before.length + old.length) = after := by
    rw [← List.length_append, List.drop_left]
  rw [copyInto?, if_pos ⟨Nat.le_add_right _ _, inside, by omega⟩, left, right]

theorem difference?_of_le {m : Nat} (ordered : n ≤ m) : difference? m n = some (m - n) :=
  if_pos ordered

theorem addWord?_of_lt {word : UInt64} (fits : word.toNat + n < 2 ^ 64) :
    ∃ sum, addWord? word n = some sum ∧ sum.toNat = word.toNat + n :=
  ⟨_, dif_pos fits, UInt64.toNat_ofNatLT⟩

/-- A run that fits one piece is not cut. -/
theorem pieces_of_length_le {size : Nat} (positive : 0 < size) (fits : data.length ≤ size)
    (written : data ≠ []) : pieces size positive data = [data] := by
  obtain ⟨b, bs, rfl⟩ := List.exists_cons_of_ne_nil written
  rw [pieces, List.take_of_length_le fits, List.drop_eq_nil_of_le fits, pieces]

namespace Ring

variable {r : Ring} {s : Scrollback}

/-! ### What is written over the oldest bytes -/

/-- The buffer holds the newer bytes up to the head and the older ones from there. It has wrapped
only if it is full. -/
structure Holds (r : Ring) (older newer : Bytes) : Prop where
  buffer : r.buffer = newer ++ older
  head : r.head = newer.length
  inside : newer.length < r.capacity
  wrapped : newer = [] ∨ newer.length + older.length = r.capacity

/-- A piece that ends before the buffer does is copied in one go. -/
theorem Holds.writePiece?_within (holds : r.Holds older newer)
    (full : newer.length + older.length = r.capacity) (fits : piece.length ≤ older.length) :
    r.writePiece? piece =
      some { r with
        buffer := newer ++ piece ++ older.drop piece.length
        head := (newer.length + piece.length) % r.capacity } := by
  have same : piece.length = (older.take piece.length).length := by
    rw [List.length_take, Nat.min_eq_left fits]
  have copied := copyInto?_append newer (older.drop piece.length) same
  rw [List.append_assoc, List.take_append_drop, ← same] at copied
  have ends : newer.length + piece.length ≤ r.capacity := by omega
  unfold writePiece?
  rw [holds.buffer, holds.head, if_pos ends, copied]
  rfl

/-- A piece that is longer goes on at the start of the buffer. -/
theorem Holds.writePiece?_across (holds : r.Holds older newer)
    (full : newer.length + older.length = r.capacity) (fits : piece.length ≤ r.capacity)
    (long : older.length < piece.length) :
    r.writePiece? piece =
      some { r with
        buffer := piece.drop older.length ++
          (newer ++ piece.take older.length).drop (piece.length - older.length)
        head := (newer.length + piece.length) % r.capacity } := by
  have room : r.capacity - newer.length = older.length := by omega
  -- The bytes up to the end of the buffer first.
  have first : (piece.take older.length).length = older.length := by
    rw [List.length_take, Nat.min_eq_left (Nat.le_of_lt long)]
  have copied := copyInto?_append newer [] first
  rw [List.append_nil, List.append_nil, ← List.length_append] at copied
  -- Then the others, over as many bytes at its start.
  have rest : (piece.drop older.length).length =
      ((newer ++ piece.take older.length).take (piece.length - older.length)).length := by
    rw [List.length_drop, List.length_take, List.length_append, first]
    omega
  have wrapped := copyInto?_append []
    ((newer ++ piece.take older.length).drop (piece.length - older.length)) rest
  rw [List.nil_append, List.take_append_drop, ← rest, List.length_drop, List.length_nil,
    Nat.zero_add, List.nil_append] at wrapped
  have beyond : ¬ newer.length + piece.length ≤ r.capacity := by omega
  unfold writePiece?
  rw [holds.buffer, holds.head, if_neg beyond, difference?_of_le (Nat.le_of_lt holds.inside), room]
  simp only [Option.bind_eq_bind, Option.bind_some, slice?_take (Nat.le_of_lt long),
    slice?_drop (Nat.le_of_lt long), difference?_of_le (Nat.le_of_lt long), copied, wrapped]
  rfl

theorem Holds.writePiece? (holds : r.Holds older newer)
    (full : newer.length + older.length = r.capacity) (fits : piece.length ≤ r.capacity) :
    ∃ r', r.writePiece? piece = some r' ∧ r'.capacity = r.capacity ∧ r'.total = r.total ∧
      r'.Holds (Scrollback.overwrite older newer piece).1
        (Scrollback.overwrite older newer piece).2 := by
  have inside := holds.inside
  by_cases within : piece.length ≤ older.length
  · refine ⟨_, holds.writePiece?_within full within, rfl, rfl, ?_⟩
    by_cases shorter : piece.length < older.length
    · -- The head stays inside the buffer.
      have head : (newer.length + piece.length) % r.capacity = newer.length + piece.length :=
        Nat.mod_eq_of_lt (by omega)
      unfold Scrollback.overwrite
      rw [if_pos shorter, head]
      exact
        { buffer := rfl
          head := List.length_append.symm
          inside := by simp only [List.length_append]; omega
          wrapped := .inr (by simp only [List.length_append, List.length_drop]; omega) }
    · -- The piece ends where the buffer does, and the head returns to its start.
      have ends : piece.length = older.length := by omega
      have head : (newer.length + piece.length) % r.capacity = 0 := by
        rw [ends, full, Nat.mod_self]
      have taken : piece.take older.length = piece := List.take_of_length_le within
      have finished : piece.drop older.length = [] := List.drop_eq_nil_of_le within
      have overwritten : older.drop piece.length = [] :=
        List.drop_eq_nil_of_le (Nat.le_of_eq ends.symm)
      unfold Scrollback.overwrite
      rw [if_neg shorter, head, taken, finished, overwritten]
      exact
        { buffer := List.append_nil _
          head := rfl
          inside := Nat.zero_lt_of_lt inside
          wrapped := .inl rfl }
  · have long : older.length < piece.length := Nat.lt_of_not_le within
    have head : (newer.length + piece.length) % r.capacity = piece.length - older.length := by
      have once : newer.length + piece.length = piece.length - older.length + r.capacity := by omega
      rw [once, Nat.add_mod_right, Nat.mod_eq_of_lt (by omega)]
    refine ⟨_, holds.writePiece?_across full fits long, rfl, rfl, ?_⟩
    unfold Scrollback.overwrite
    rw [if_neg (Nat.not_lt_of_lt long), head]
    exact
      { buffer := by simp only [List.length_drop]
        head := List.length_drop.symm
        inside := by simp only [List.length_drop]; omega
        wrapped := .inr (by
          simp only [List.length_append, List.length_drop, List.length_take]
          omega) }

/-- Before the buffer is full there is nothing to write over. -/
theorem Holds.write? (holds : r.Holds older newer) (fits : data.length ≤ r.capacity)
    (full : data = [] ∨ newer.length + older.length = r.capacity) :
    ∃ r', r.write? data = some r' ∧ r'.capacity = r.capacity ∧ r'.total = r.total ∧
      r'.Holds (Scrollback.overwrite older newer data).1
        (Scrollback.overwrite older newer data).2 := by
  have positive : 0 < r.capacity := Nat.zero_lt_of_lt holds.inside
  unfold Ring.write?
  rw [dif_pos positive]
  by_cases nothing : data = []
  · subst nothing
    have same : Scrollback.overwrite older newer [] = (older, newer) := by
      unfold Scrollback.overwrite
      split
      · rw [List.length_nil, List.drop_zero, List.append_nil]
      · rename_i short
        have gone : older = [] := List.eq_nil_of_length_eq_zero (by simpa using short)
        have start : newer = [] := by
          have inside := holds.inside
          refine holds.wrapped.resolve_right fun full => ?_
          rw [gone, List.length_nil] at full
          omega
        subst gone start
        rfl
    rw [pieces, same]
    exact ⟨r, rfl, rfl, rfl, holds⟩
  · obtain ⟨r', written, rest⟩ := holds.writePiece? (full.resolve_left nothing) fits
    rw [pieces_of_length_le positive fits nothing, List.foldlM_cons, written]
    exact ⟨r', rfl, rest⟩

/-! ### The scrollback in the ring -/

structure Keeps (r : Ring) (s : Scrollback) : Prop extends r.Holds s.older s.newer where
  capacity : r.capacity = s.capacity
  total : r.total.toNat = s.total

theorem keeps_empty (capacity : Nat) : (empty capacity).Keeps (Scrollback.empty capacity) where
  buffer := rfl
  head := rfl
  inside := (Scrollback.empty capacity).positive
  wrapped := .inl rfl
  capacity := rfl
  total := rfl

theorem Keeps.length (keeps : r.Keeps s) : r.length = s.length := by
  unfold Ring.length Scrollback.length
  rw [keeps.buffer, List.length_append, Nat.add_comm]

theorem Keeps.slices? (keeps : r.Keeps s) : r.slices? = some (s.older, s.newer) := by
  have length := keeps.length
  unfold Ring.length at length
  unfold Ring.slices?
  split
  · rename_i short
    have start : s.newer = [] :=
      s.newer_eq_nil_of_lt (by rwa [length, keeps.capacity] at short)
    rw [keeps.buffer, start, List.nil_append]
  · have inside : s.newer.length ≤ (s.newer ++ s.older).length := by
      rw [List.length_append]
      exact Nat.le_add_right _ _
    rw [keeps.buffer, keeps.head, slice?_drop inside, slice?_take inside, List.drop_left,
      List.take_left]
    rfl

theorem Keeps.bytes? (keeps : r.Keeps s) : r.bytes? = some s.retained := by
  rw [Ring.bytes?, keeps.slices?]
  rfl

theorem Keeps.dropped? (keeps : r.Keeps s) (counted : s.Counted) :
    r.dropped? = some s.dropped := by
  rw [Ring.dropped?, keeps.total, keeps.length, difference?_of_le counted.length_le]
  rfl

/-- A push first fills what room there is, and leaves the rest of the newest bytes to be written
over the oldest. -/
theorem Keeps.fill (keeps : r.Keeps s) {output : Bytes}
    (fits : s.total + output.length < 2 ^ 64) :
    ∃ grown : Ring,
      r.push? output =
        grown.write? ((newest s.capacity output).drop (s.capacity - s.length)) ∧
      grown.capacity = r.capacity ∧ grown.total.toNat = s.total + output.length ∧
      grown.Holds (s.older ++ (newest s.capacity output).take (s.capacity - s.length)) s.newer := by
  have sum : r.total.toNat + output.length < 2 ^ 64 := by rwa [keeps.total]
  obtain ⟨total, added, counts⟩ := addWord?_of_lt sum
  rw [keeps.total] at counts
  have kept : slice? output (output.length - r.capacity) output.length =
      some (newest s.capacity output) := by
    rw [slice?_drop (Nat.sub_le _ _), keeps.capacity, newest]
  have length := keeps.length
  unfold Ring.length at length
  unfold Ring.push?
  rw [added]
  simp only [Option.bind_eq_bind, Option.bind_some, kept]
  generalize newest s.capacity output = data
  split
  · rename_i short
    have start : s.newer = [] :=
      s.newer_eq_nil_of_lt (by rwa [length, keeps.capacity] at short)
    have taken : data.take (min data.length (s.capacity - s.length)) =
        data.take (s.capacity - s.length) := by
      rw [Nat.min_comm, ← List.take_take, List.take_length]
    have dropped : data.drop (min data.length (s.capacity - s.length)) =
        data.drop (s.capacity - s.length) := by
      grind
    rw [difference?_of_le (Nat.le_of_lt short), keeps.capacity, length]
    simp only [Option.bind_some, slice?_take (Nat.min_le_left _ _),
      slice?_drop (Nat.min_le_left _ _), taken, dropped]
    refine ⟨_, rfl, rfl, counts, ?_⟩
    exact
      { buffer := by rw [keeps.buffer, start, List.nil_append, List.nil_append]
        head := keeps.head
        inside := by rw [start]; exact s.positive
        wrapped := .inl start }
  · rename_i full
    have packed : s.capacity - s.length = 0 := by
      rw [← length, ← keeps.capacity]
      omega
    rw [packed, List.take_zero, List.append_nil, List.drop_zero]
    exact ⟨_, rfl, rfl, counts, keeps.buffer, keeps.head, keeps.inside, keeps.wrapped⟩

/-- A push of the ring is a push of the scrollback. -/
theorem Keeps.push? (keeps : r.Keeps s) {output : Bytes}
    (fits : s.total + output.length < 2 ^ 64) :
    ∃ r', r.push? output = some r' ∧ r'.Keeps (s.push output) := by
  obtain ⟨grown, pushed, capacity, total, holds⟩ := keeps.fill fits
  have inside := s.fits
  have newer := s.newer_eq_nil_of_lt
  have long := length_newest s.capacity output
  have width : (newest s.capacity output).length ≤ s.capacity := by omega
  have short : ((newest s.capacity output).drop (s.capacity - s.length)).length ≤
      grown.capacity := by
    rw [capacity, keeps.capacity, List.length_drop]
    omega
  have full : (newest s.capacity output).drop (s.capacity - s.length) = [] ∨
      s.newer.length + (s.older ++
        (newest s.capacity output).take (s.capacity - s.length)).length = grown.capacity := by
    by_cases fill : (newest s.capacity output).length ≤ s.capacity - s.length
    · exact .inl (List.drop_eq_nil_of_le fill)
    · refine .inr ?_
      rw [capacity, keeps.capacity, List.length_append, List.length_take]
      unfold Scrollback.length at fill ⊢
      omega
  obtain ⟨r', written, capacity', total', holds'⟩ := holds.write? short full
  refine ⟨r', pushed.trans written, holds', ?_, ?_⟩
  · exact (capacity'.trans capacity).trans keeps.capacity
  · exact total' ▸ total

/-- As long as the count fits, every push of a run succeeds. -/
theorem Keeps.pushes? (keeps : r.Keeps s) {outputs : List Bytes}
    (fits : s.total + outputs.flatten.length < 2 ^ 64) :
    ∃ r', outputs.foldlM Ring.push? r = some r' ∧ r'.Keeps (s.pushAll outputs) := by
  induction outputs generalizing r s with
  | nil => exact ⟨r, rfl, keeps⟩
  | cons output outputs ih =>
    rw [List.flatten_cons, List.length_append] at fits
    have first : s.total + output.length < 2 ^ 64 := by omega
    obtain ⟨r₁, pushed, keeps₁⟩ := keeps.push? first
    have others : (s.push output).total + outputs.flatten.length < 2 ^ 64 := by
      rw [Scrollback.total_push]
      omega
    obtain ⟨r', rest, keeps'⟩ := ih keeps₁ others
    rw [List.foldlM_cons, pushed]
    exact ⟨r', rest, keeps'⟩

end Ring

/-! ### What is kept of a run -/

/-- Pushes whose bytes can be counted all succeed, and leave in the ring what they leave in the
scrollback: the newest bytes, as many as the capacity admits, with counts of all and of those that
are gone. -/
theorem newest_bytes_kept (capacity : Nat) (outputs : List Bytes)
    (countable : outputs.flatten.length < 2 ^ 64) :
    let written := outputs.flatten
    let s := (Scrollback.empty capacity).pushAll outputs
    ∃ ring, outputs.foldlM Ring.push? (Ring.empty capacity) = some ring ∧
      ring.slices? = some (s.older, s.newer) ∧
      ring.bytes? = some (s.older ++ s.newer) ∧
      s.older ++ s.newer <:+ written ∧
      (s.older ++ s.newer).length = min (max 1 capacity) written.length ∧
      ring.length = min (max 1 capacity) written.length ∧
      ring.total.toNat = written.length ∧
      ring.length ≤ written.length ∧
      ring.dropped? = some (written.length - ring.length) ∧
      s.length = ring.length ∧ s.total = ring.total.toNat ∧ ring.dropped? = some s.dropped := by
  intro written s
  have total : s.total = written.length :=
    (Scrollback.total_pushAll _ outputs).trans (Nat.zero_add _)
  have counted : s.Counted := (Scrollback.counted_empty capacity).pushAll outputs
  have width : s.length = min (max 1 capacity) written.length := by
    have capacities : s.capacity = max 1 capacity := Scrollback.capacity_pushAll _ outputs
    rw [counted, capacities, total]
  have kept : s.retained = newest (max 1 capacity) written :=
    Scrollback.retained_pushAll (s := .empty capacity) (Nat.zero_le _) outputs
  have start : (Scrollback.empty capacity).total + outputs.flatten.length < 2 ^ 64 := by
    rwa [Scrollback.empty, Nat.zero_add]
  obtain ⟨ring, pushed, keeps⟩ := (Ring.keeps_empty capacity).pushes? start
  have gone : s.dropped = written.length - ring.length := by
    rw [keeps.length, ← total, Scrollback.dropped]
  refine ⟨ring, pushed, keeps.slices?, keeps.bytes?, ?_, ?_, ?_, ?_, ?_, ?_, ?_, ?_, ?_⟩
  · have suffix := newest_suffix (max 1 capacity) written
    rw [← kept] at suffix
    exact suffix
  · exact (Scrollback.length_retained s).trans width
  · exact keeps.length.trans width
  · exact keeps.total.trans total
  · rw [keeps.length, ← total]
    exact counted.length_le
  · rw [keeps.dropped? counted, gone]
  · exact keeps.length.symm
  · exact keeps.total.symm
  · exact keeps.dropped? counted

/-- Six bytes in a ring of four: the last write ends in the middle of the buffer. -/
theorem newest_bytes_kept_of_six :
    ([[1, 2, 3], [4, 5, 6]] : List Bytes).flatten.length < 2 ^ 64 ∧
    ∃ ring, [[1, 2, 3], [4, 5, 6]].foldlM Ring.push? (Ring.empty 4) = some ring ∧
      ring.slices? = some ([3, 4], [5, 6]) ∧ ring.bytes? = some [3, 4, 5, 6] ∧
      ring.length = 4 ∧ ring.total.toNat = 6 ∧ ring.dropped? = some 2 := by
  have countable : ([[1, 2, 3], [4, 5, 6]] : List Bytes).flatten.length < 2 ^ 64 := by decide
  obtain ⟨ring, pushed, slices, bytes, -, -, length, total, -, dropped, -⟩ :=
    newest_bytes_kept 4 [[1, 2, 3], [4, 5, 6]] countable
  refine ⟨countable, ring, pushed, slices, bytes, length, total, ?_⟩
  rw [dropped, length]
  rfl

end Switchboard.Session
