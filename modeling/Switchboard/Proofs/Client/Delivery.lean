import Switchboard.Proofs.Client.Turn

/-!
# Delivery of requests

The requests that the desk queues are written to the socket in order and once, in whatever order the
connection takes its turns. `requests_delivered`: those written are the first ones of those queued,
and what is queued depends on the frames, inputs and resizes that the desk took part in, not on when
the outbox was written.
-/

namespace Switchboard.Client

open Wire

variable {c : Connection} {now : Nat} {t : Turn} {turns : List (Nat × Turn)} {r : Request}
  {rest queued more : List Request} {o : Outcome}

/-- The first requests of those queued are written, in order, and the others wait. Where a write
failed, its request lies between them and the connection is lost. -/
def Outcome.Delivers (o : Outcome) (queued : List Request) : Prop :=
  ∃ sent, Output.frames o.outputs = sent.map Request.encode ∧
    (queued = sent ++ o.connection.outbox.queue ∨
      ∃ r, queued = sent ++ r :: o.connection.outbox.queue ∧ o.ending = some (.lost (unsent r)))

theorem Outcome.Delivers.append {first : Outcome} (d : first.Delivers queued)
    (goesOn : first.ending = none) (d' : o.Delivers (first.connection.outbox.queue ++ more)) :
    ({ o with outputs := first.outputs ++ o.outputs } : Outcome).Delivers (queued ++ more) := by
  obtain ⟨sent, written, waiting | ⟨r, _, lost⟩⟩ := d
  · obtain ⟨sent', written', fate⟩ := d'
    refine ⟨sent ++ sent', by simp [written, written'], ?_⟩
    rw [waiting, List.append_assoc]
    rcases fate with all | ⟨r, all, lost⟩
    · exact Or.inl (by rw [all, List.append_assoc])
    · exact Or.inr ⟨r, by rw [all, List.append_assoc], lost⟩
  · simp [goesOn] at lost

namespace Connection

theorem delivers_turn (isOpen : c.outbox.isOpen = true) (now : Nat) (t : Turn) :
    (c.turn now t).Delivers (c.outbox.queue ++ (Moment.mk c now t).requests) := by
  cases t with
  | write taken =>
    have silent : (Moment.mk c now (.write taken)).requests = [] := rfl
    rw [silent, List.append_nil]
    cases queue : c.outbox.queue with
    | nil =>
      rw [turn_write_of_empty queue]
      exact ⟨[], rfl, Or.inl queue.symm⟩
    | cons r rest =>
      rw [turn_write isOpen queue]
      cases taken with
      | true => exact ⟨[r], rfl, Or.inl rfl⟩
      | false => exact ⟨[], rfl, Or.inr ⟨r, rfl, rfl⟩⟩
  | _ =>
    rw [c.turn_eq now rfl]
    exact ⟨[], Output.frames_map_cue _, Or.inl (Outbox.queue_sendAll isOpen _).symm⟩

theorem delivers_run (isOpen : c.outbox.isOpen = true) (turns : List (Nat × Turn)) :
    (c.run turns).Delivers (c.outbox.queue ++ c.queued turns) := by
  induction turns generalizing c with
  | nil => exact ⟨[], rfl, Or.inl (List.append_nil _)⟩
  | cons x turns ih =>
    obtain ⟨now, t⟩ := x
    have first := delivers_turn isOpen now t
    cases ending : (c.turn now t).ending with
    | some e =>
      rw [run_cons_of_ending turns ending, queued, history_of_ending turns ending]
      simpa using first
    | none =>
      rw [run_cons_of_none turns ending, queued, history_of_none turns ending, List.flatMap_cons,
        ← List.append_assoc]
      exact first.append ending (ih ((c.isOpen_turn now t).trans isOpen))

theorem isOpen_of_mem_history {m : Moment} (mem : m ∈ c.history turns) :
    m.connection.outbox.isOpen = c.outbox.isOpen := by
  obtain ⟨earlier, later, met⟩ := List.append_of_mem mem
  exact history_induction (P := fun _ d => d.outbox.isOpen = c.outbox.isOpen)
    (fun _ d now t same => (d.isOpen_turn now t).trans same) [] rfl met

/-- A turn that ends the connection is the last one. -/
theorem ending_run_of_mem {m : Moment} {e : Ending} (mem : m ∈ c.history turns)
    (ended : m.outcome.ending = some e) : (c.run turns).ending = some e := by
  induction turns generalizing c with
  | nil => cases mem
  | cons x turns ih =>
    obtain ⟨now, t⟩ := x
    cases ending : (c.turn now t).ending with
    | some e' =>
      rw [history_of_ending turns ending, List.mem_singleton] at mem
      subst mem
      rw [run_cons_of_ending turns ending]
      exact ended
    | none =>
      rw [history_of_none turns ending, List.mem_cons] at mem
      rw [run_cons_of_none turns ending]
      rcases mem with rfl | later
      · exact absurd (ending.symm.trans ended) (Option.some_ne_none e).symm
      · exact ih later

/-- Requests are delivered in order and once, in whatever order the turns of a connection come. The
frames written are those of the first requests of all that were queued; the others wait, but for one
that could not be written. A request taken from the outbox is written or the connection is lost.
What becomes of the desk, and what is queued, depends on the turns in which the desk took part: two
connections that take part in the same turns differ at most in what is written. -/
theorem requests_delivered (settings : Switchboard.Settings) (delay : Nat)
    (turns : List (Nat × Turn)) :
    let c := (start settings delay).connection
    let run := c.run turns
    let operations := Turn.allOperations {} (c.processed turns)
    (∃ sent, Output.frames run.outputs = sent.map Request.encode ∧
      (c.queued turns = sent ++ run.connection.outbox.queue ∨
        ∃ r, c.queued turns = sent ++ r :: run.connection.outbox.queue ∧
          run.ending = some (.lost (unsent r)))) ∧
    (∀ m ∈ c.history turns, ∀ taken r rest, m.turn = .write taken →
      m.connection.outbox.queue = r :: rest →
        if taken then m.outcome.outputs = [.frame r.encode] ∧ m.outcome.ending = none
        else run.ending = some (.lost (unsent r))) ∧
    run.connection.desk = c.desk.after operations ∧
    c.queued turns = Effect.requests (c.desk.run operations).2 ∧
    ∀ others, c.processed others = c.processed turns →
      (c.run others).connection.desk = run.connection.desk ∧ c.queued others = c.queued turns := by
  intro c run operations
  have isOpen : c.outbox.isOpen = true := rfl
  have desk : ∀ turns, (c.run turns).connection.desk =
      c.desk.after (Turn.allOperations {} (c.processed turns)) := by
    intro turns
    rw [desk_run, done_eq]
    rfl
  have queued : ∀ turns, c.queued turns =
      Effect.requests (c.desk.run (Turn.allOperations {} (c.processed turns))).2 := by
    intro turns
    rw [queued_eq, done_eq]
    rfl
  refine ⟨delivers_run isOpen turns, ?_, desk turns, queued turns, ?_⟩
  · rintro ⟨d, now, t⟩ mem taken r rest rfl queue
    have written : d.turn now (.write taken) = _ :=
      turn_write ((isOpen_of_mem_history mem).trans isOpen) queue taken
    cases taken with
    | true => exact ⟨congrArg Outcome.outputs written, congrArg Outcome.ending written⟩
    | false => exact ending_run_of_mem mem (congrArg Outcome.ending written)
  · intro others same
    rw [desk others, queued others, same]
    exact ⟨(desk turns).symm, (queued turns).symm⟩

end Connection

end Switchboard.Client
