import Switchboard.Client.Connection
import Switchboard.Proofs.Desk.History

/-!
# Turns of a connection

A turn does operations on the desk; then resizes may begin or cease to wait, and the connection may
end. `turn_eq` says so of every turn but a write, which touches the outbox alone. A run does the
operations of its turns one after the other; which these are depends on the order of the turns that
the desk takes part in, and not on their times or on the writes in between (`done_eq`).
-/

namespace Switchboard

open Wire

@[simp]
theorem Wire.Outbox.sendAll_nil (o : Outbox) : o.sendAll [] = o := by
  simp [Outbox.sendAll]

theorem Wire.Outbox.queue_sendAll {o : Outbox} (isOpen : o.isOpen = true) (rs : List Request) :
    (o.sendAll rs).queue = o.queue ++ rs := by
  simp [Outbox.sendAll, isOpen]

theorem Desk.run_single (d : Desk) (op : Operation) : d.run [op] = Desk.handle op d := by
  simp [Desk.run_cons]

namespace Client

variable {c : Connection} {now : Nat} {t : Turn} {turns : List (Nat × Turn)} {r : Request}
  {rest : List Request}

/-- The intent that a resize is once it has waited. -/
def resizing (entry : TerminalId × Size) : Operation := .intent (.resize entry.1 entry.2)

namespace Turn

/-- The operations that a turn does on the desk when these resizes wait. -/
def operations (pending : Table TerminalId Size) : Turn → List Operation
  | read f =>
    match f.inbound with
    | .report r => [.report r]
    | _ => []
  | input (.intent (.resize _ _)) => []
  | input (.intent i) => [.intent i]
  | input (.command command) => [.command command]
  | fire => pending.entries.map resizing
  | write _ | hangUp | cancel => []

/-- The resizes that wait after a turn. -/
def pending (pending : Table TerminalId Size) : Turn → Table TerminalId Size
  | input (.intent (.resize t size)) => pending.put t size
  | fire => {}
  | _ => pending

/-- The operations that turns do one after the other. Time plays no part in it. -/
def allOperations (pending : Table TerminalId Size) : List Turn → List Operation
  | [] => []
  | t :: ts => t.operations pending ++ allOperations (t.pending pending) ts

/-- How a turn other than a write ends a connection. -/
def ending? : Turn → Option Ending
  | read f =>
    match f.inbound with
    | .closed fault => some (.lost fault)
    | _ => none
  | hangUp => some .hungUp
  | cancel => some .cancelled
  | _ => none

def isWrite : Turn → Bool
  | write _ => true
  | _ => false

end Turn

def Debounce.after (d : Debounce) (now : Nat) : Turn → Debounce
  | .input (.intent (.resize t size)) => d.push now t size
  | .fire => if d.isDue now then d.take.2 else d
  | _ => d

namespace Output

@[simp]
theorem cues_append (os more : List Output) : cues (os ++ more) = cues os ++ cues more :=
  List.filterMap_append

@[simp]
theorem frames_append (os more : List Output) : frames (os ++ more) = frames os ++ frames more :=
  List.filterMap_append

@[simp]
theorem cues_map_cue (cs : List Cue) : cues (cs.map .cue) = cs := by
  simp [cues, List.filterMap_map]

@[simp]
theorem frames_map_cue (cs : List Cue) : frames (cs.map .cue) = [] := by
  simp [frames, List.filterMap_map]

end Output

namespace Connection

/-- Whether the desk takes part in a turn: in a frame, in an input and in resizes that are due. -/
def processes (c : Connection) (now : Nat) : Turn → Bool
  | .read _ | .input _ => true
  | .fire => c.debounce.isDue now
  | .write _ | .hangUp | .cancel => false

def operations (c : Connection) (now : Nat) (t : Turn) : List Operation :=
  if c.processes now t then t.operations c.debounce.pending else []

/-! ### One turn -/

/-- A turn other than a write does its operations. -/
theorem turn_eq (c : Connection) (now : Nat) (notWrite : t.isWrite = false) :
    c.turn now t =
      { connection :=
          { desk := (c.desk.run (c.operations now t)).1
            outbox := c.outbox.sendAll (Effect.requests (c.desk.run (c.operations now t)).2)
            debounce := c.debounce.after now t }
        outputs := (Effect.cues (c.desk.run (c.operations now t)).2).map .cue
        ending := t.ending? } := by
  have still : c.outbox.sendAll (Effect.requests []) = c.outbox := c.outbox.sendAll_nil
  have silent : (Effect.cues []).map Output.cue = [] := rfl
  cases t with
  | read f =>
    simp only [turn, read, operations, processes, Turn.operations, Debounce.after, Turn.ending?,
      if_true]
    cases f.inbound with
    | report r => simp only [Desk.run_single, act]
    | skip | closed fault => simp only [Desk.run_nil, still, silent]
  | write taken => cases notWrite
  | input i =>
    cases i with
    | intent i =>
      cases i <;>
        simp only [turn, input, operations, processes, Turn.operations, Debounce.after,
          Turn.ending?, if_true, act, Desk.run_single, Desk.run_nil, still, silent]
    | command command =>
      simp only [turn, input, operations, processes, Turn.operations, Debounce.after,
        Turn.ending?, if_true, act, Desk.run_single]
  | fire =>
    cases due : c.debounce.isDue now with
    | true =>
      simp only [turn, fire, operations, processes, Turn.operations, Debounce.after,
        Turn.ending?, due, if_true]
      rfl
    | false =>
      simp only [turn, fire, operations, processes, Debounce.after, Turn.ending?, due,
        Bool.false_eq_true, if_false, Desk.run_nil, still, silent]
  | hangUp | cancel =>
    simp only [turn, operations, processes, Debounce.after, Turn.ending?, Bool.false_eq_true,
      if_false, Desk.run_nil, still, silent]

theorem turn_write_of_empty (empty : c.outbox.queue = []) (taken : Bool) :
    c.turn now (.write taken) = { connection := c } := by
  cases isOpen : c.outbox.isOpen <;> simp [turn, write, Outbox.receive, isOpen, empty]

end Connection

/-- What ends a connection that could not send a request. -/
def unsent (r : Request) : Fault := ⟨.sendFailed, r.kind ++ " not sent"⟩

namespace Connection

theorem turn_write (isOpen : c.outbox.isOpen = true) (queue : c.outbox.queue = r :: rest)
    (taken : Bool) :
    c.turn now (.write taken) =
      { connection := { c with outbox := { c.outbox with queue := rest } }
        outputs := if taken then [.frame r.encode] else []
        ending := if taken then none else some (.lost (unsent r)) } := by
  cases taken <;>
    simp [turn, write, Outbox.receive, isOpen, queue, Request.transmit, FaultCode.endsConnection,
      unsent]

/-- A write leaves all but the outbox as it is. -/
theorem connection_write (c : Connection) (now : Nat) (taken : Bool) :
    ∃ outbox, (c.turn now (.write taken)).connection = { c with outbox } := by
  simp only [turn, write]
  split
  · cases taken <;> exact ⟨_, rfl⟩
  · exact ⟨_, rfl⟩

theorem desk_turn (c : Connection) (now : Nat) (t : Turn) :
    (c.turn now t).connection.desk = c.desk.after (c.operations now t) := by
  cases t with
  | write taken =>
    obtain ⟨outbox, same⟩ := c.connection_write now taken
    rw [same]
    rfl
  | _ => rw [c.turn_eq now rfl]; rfl

theorem debounce_turn (c : Connection) (now : Nat) (t : Turn) :
    (c.turn now t).connection.debounce = c.debounce.after now t := by
  cases t with
  | write taken =>
    obtain ⟨outbox, same⟩ := c.connection_write now taken
    rw [same]
    rfl
  | _ => rw [c.turn_eq now rfl]

theorem isOpen_turn (c : Connection) (now : Nat) (t : Turn) :
    (c.turn now t).connection.outbox.isOpen = c.outbox.isOpen := by
  cases t with
  | write taken =>
    cases queue : c.outbox.queue with
    | nil => rw [turn_write_of_empty queue]
    | cons r rest =>
      cases isOpen : c.outbox.isOpen with
      | true => rw [turn_write isOpen queue]; exact isOpen
      | false => simp [turn, write, Outbox.receive, isOpen]
  | _ => rw [c.turn_eq now rfl]; exact Outbox.isOpen_sendAll _ _

theorem pending_after (c : Connection) (now : Nat) (t : Turn) :
    (c.debounce.after now t).pending =
      if c.processes now t then t.pending c.debounce.pending else c.debounce.pending := by
  cases t with
  | input i =>
    cases i with
    | intent i => cases i <;> rfl
    | command command => rfl
  | fire =>
    cases due : c.debounce.isDue now with
    | true => simp only [Debounce.after, processes, due, if_true]; rfl
    | false => simp only [Debounce.after, processes, due, Bool.false_eq_true, if_false]
  | _ => rfl

end Connection

/-! ### Runs -/

/-- A turn of a run, with the connection that it met. -/
structure Moment where
  connection : Connection
  now : Nat
  turn : Turn

namespace Moment

def operations (m : Moment) : List Operation := m.connection.operations m.now m.turn

/-- The requests that the desk queues at a turn. -/
def requests (m : Moment) : List Request :=
  Effect.requests (m.connection.desk.run m.operations).2

def processes (m : Moment) : Bool := m.connection.processes m.now m.turn

def outcome (m : Moment) : Outcome := m.connection.turn m.now m.turn

end Moment

namespace Connection

/-- The turns of a run up to its end. -/
def history (c : Connection) : List (Nat × Turn) → List Moment
  | [] => []
  | (now, t) :: turns =>
    ⟨c, now, t⟩ ::
      if (c.turn now t).ending.isSome then [] else (c.turn now t).connection.history turns

/-- The turns of a run in which the desk took part. -/
def processed (c : Connection) (turns : List (Nat × Turn)) : List Turn :=
  ((c.history turns).filter Moment.processes).map Moment.turn

/-- The requests that were queued in a run. -/
def queued (c : Connection) (turns : List (Nat × Turn)) : List Request :=
  (c.history turns).flatMap Moment.requests

/-- The operations of a run. -/
def done (c : Connection) (turns : List (Nat × Turn)) : List Operation :=
  (c.history turns).flatMap Moment.operations

theorem history_of_ending {e : Ending} (turns : List (Nat × Turn))
    (ended : (c.turn now t).ending = some e) : c.history ((now, t) :: turns) = [⟨c, now, t⟩] := by
  simp [history, ended]

theorem history_of_none (turns : List (Nat × Turn)) (goesOn : (c.turn now t).ending = none) :
    c.history ((now, t) :: turns) = ⟨c, now, t⟩ :: (c.turn now t).connection.history turns := by
  simp [history, goesOn]

/-- What every turn keeps holds at every turn of a run, of the turns before it and the connection
that it met. -/
theorem history_induction {P : List Moment → Connection → Prop}
    (step : ∀ past c now t, P past c → P (past ++ [⟨c, now, t⟩]) (c.turn now t).connection)
    {earlier later : List Moment} {m : Moment} (past : List Moment) (first : P past c)
    (met : c.history turns = earlier ++ m :: later) : P (past ++ earlier) m.connection := by
  induction turns generalizing c past earlier with
  | nil => simp [history] at met
  | cons x turns ih =>
    obtain ⟨now, t⟩ := x
    cases earlier with
    | nil =>
      obtain rfl := (List.cons.inj met).1
      simpa using first
    | cons x earlier =>
      obtain ⟨rfl, rest⟩ := List.cons.inj met
      cases ending : (c.turn now t).ending with
      | some e => simp [ending] at rest
      | none =>
        rw [ending] at rest
        simpa using ih _ (step past c now t first) rest

theorem desk_run (c : Connection) (turns : List (Nat × Turn)) :
    (c.run turns).connection.desk = c.desk.after (c.done turns) := by
  induction turns generalizing c with
  | nil => rfl
  | cons x turns ih =>
    obtain ⟨now, t⟩ := x
    cases ending : (c.turn now t).ending with
    | some e =>
      rw [run_cons_of_ending turns ending, done, history_of_ending turns ending, desk_turn]
      simp [Moment.operations]
    | none =>
      rw [run_cons_of_none turns ending, done, history_of_none turns ending, List.flatMap_cons,
        Desk.after, Desk.run_append]
      exact (ih _).trans (by rw [desk_turn]; rfl)

/-- What is queued in a run comes of its operations alone. -/
theorem queued_eq (c : Connection) (turns : List (Nat × Turn)) :
    c.queued turns = Effect.requests (c.desk.run (c.done turns)).2 := by
  induction turns generalizing c with
  | nil => rfl
  | cons x turns ih =>
    obtain ⟨now, t⟩ := x
    cases ending : (c.turn now t).ending with
    | some e =>
      rw [queued, done, history_of_ending turns ending]
      simp [Moment.requests, Moment.operations]
    | none =>
      rw [queued, done, history_of_none turns ending, List.flatMap_cons, List.flatMap_cons,
        Desk.run_append, Effect.requests_append]
      refine congrArg (_ ++ ·) ((ih _).trans ?_)
      rw [desk_turn]
      rfl

/-- The operations of a run are those of the turns in which the desk took part. -/
theorem done_eq (c : Connection) (turns : List (Nat × Turn)) :
    c.done turns = Turn.allOperations c.debounce.pending (c.processed turns) := by
  induction turns generalizing c with
  | nil => rfl
  | cons x turns ih =>
    obtain ⟨now, t⟩ := x
    cases ending : (c.turn now t).ending with
    | some e =>
      rw [done, processed, history_of_ending turns ending]
      cases part : c.processes now t <;>
        simp [Moment.operations, Moment.processes, operations, part, Turn.allOperations]
    | none =>
      rw [done, processed, history_of_none turns ending, List.flatMap_cons, List.filter_cons]
      have later := ih (c.turn now t).connection
      rw [debounce_turn, pending_after] at later
      cases part : c.processes now t with
      | true =>
        simp only [Moment.operations, Moment.processes, operations, part, if_true,
          List.map_cons, Turn.allOperations] at later ⊢
        exact congrArg (_ ++ ·) later
      | false =>
        simp only [Moment.operations, Moment.processes, operations, part, Bool.false_eq_true,
          if_false, List.nil_append] at later ⊢
        exact later

end Connection

end Client

end Switchboard
