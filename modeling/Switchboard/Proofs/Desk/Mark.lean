import Switchboard.Proofs.Desk.Record

/-!
# Marks

The presenter is told when a connection is there and when it is gone. No operation on a desk tells
it so (`unmarked_run`); only what starts a desk and what ends it does.
-/

namespace Switchboard

/-- Whether a record says that the connection is there or that it is gone. -/
def Record.mark? : Record → Option Bool
  | .connected => some true
  | .disconnected => some false
  | _ => none

theorem Record.mark?_of_picture (r : Record) (picture : r.isNote = false) : r.mark? = none := by
  cases r <;> first | rfl | cases picture

namespace Desk

variable {d d' : Desk} {op : Operation} {acts : List Act}

/-- No move tells the presenter that the connection is there or that it is gone. -/
theorem Move.unmarked (m : Move op d d' acts) :
    (Act.records acts).filterMap Record.mark? = [] := by
  rcases m.notes with pictures | ⟨t, index, path, -, -, rfl⟩
  · exact filterMap_eq_nil_of_notes Record.mark?_of_picture pictures
  · rfl

theorem Asks.unmarked {greeted : Option (HostId × Roster)} (asks : Asks greeted d d' acts) :
    (Act.records acts).filterMap Record.mark? = [] :=
  filterMap_eq_nil_of_notes Record.mark?_of_picture asks.notes

theorem unmarked_handle (op : Operation) (d : Desk) :
    (Effect.records (handle op d).2).filterMap Record.mark? = [] := by
  obtain ⟨d₁, acts, d₂, more, m, asks, e⟩ := handle_moves op d
  rw [filterMap_eq_of_plain (fun _ => rfl) e.records, Act.records_append, List.filterMap_append,
    m.unmarked, asks.unmarked, List.append_nil]

theorem unmarked_run (d : Desk) (ops : List Operation) :
    (Effect.records (d.run ops).2).filterMap Record.mark? = [] := by
  induction ops generalizing d with
  | nil => rfl
  | cons op ops ih =>
    rw [run_cons, Effect.records_append, List.filterMap_append, unmarked_handle, ih,
      List.append_nil]

end Desk

end Switchboard
