import Mathlib.Data.List.DropRight
import Switchboard.Proofs.Client.Resizing

/-!
# Resizes that wait are coalesced

Since resizes were last sent, the presenter has asked for some more. What waits at a connection, and
until when, is made up of those alone (`gathered_history`). `resizes_coalesced`: when they are sent,
each terminal gets the last size asked for, in the order in which the terminals were first named,
and not before the delay has passed since the last of them was asked for.
-/

namespace Switchboard.Client

open Json Wire

variable {delay : Nat} {past earlier later : List Moment} {m : Moment}
  {turns : List (Nat × Turn)}

/-- The resize that the presenter asks for at a turn. -/
def Moment.resize? (m : Moment) : Option (TerminalId × Size) :=
  match m.turn with
  | .input (.intent (.resize t size)) => some (t, size)
  | _ => none

/-- The turns since resizes were last sent. -/
def sinceFired (past : List Moment) : List Moment := past.rtakeWhile (!·.fires)

/-- The turns since resizes were last sent at which the presenter asked for one. -/
def askings (past : List Moment) : List Moment := (sinceFired past).filter (·.resize?.isSome)

/-- The resizes that the presenter asked for since resizes were last sent. -/
def resizes (past : List Moment) : List (TerminalId × Size) :=
  (askings past).filterMap Moment.resize?

/-- What waits when these turns are past. -/
def gathered (delay : Nat) (past : List Moment) : Debounce where
  delay := delay
  pending := .ofPuts (resizes past)
  deadline := (askings past).getLast?.map (·.now + delay)

/-! ### What one turn adds -/

theorem Moment.fires_of_resize? {entry : TerminalId × Size} (asks : m.resize? = some entry) :
    m.fires = false := by
  unfold resize? at asks
  split at asks
  · rename_i same
    simp [fires, same]
  · cases asks

theorem askings_of_fires (fires : m.fires = true) : askings (past ++ [m]) = [] := by
  simp [askings, sinceFired, fires]

theorem askings_of_resize? {entry : TerminalId × Size} (asks : m.resize? = some entry) :
    askings (past ++ [m]) = askings past ++ [m] := by
  simp [askings, sinceFired, Moment.fires_of_resize? asks, asks]

theorem askings_of_other (still : m.fires = false) (silent : m.resize? = none) :
    askings (past ++ [m]) = askings past := by
  simp [askings, sinceFired, still, silent]

/-- What the presenter asks for joins what waits; what is sent waits no longer; nothing else matters
to it. -/
theorem Moment.debounce_outcome (m : Moment) :
    m.outcome.connection.debounce =
      match m.resize? with
      | some (t, size) => m.connection.debounce.push m.now t size
      | none =>
        if m.fires then { delay := m.connection.debounce.delay } else m.connection.debounce := by
  obtain ⟨c, now, turn⟩ := m
  refine (c.debounce_turn now turn).trans ?_
  cases turn with
  | input i =>
    cases i with
    | intent i => cases i <;> rfl
    | command command => rfl
  | fire =>
    simp only [Debounce.after, resize?, fires, processes, Connection.processes, Debounce.take,
      decide_true, Bool.true_and]
  | _ => rfl

theorem gathered_turn (waiting : m.connection.debounce = gathered delay past) :
    m.outcome.connection.debounce = gathered delay (past ++ [m]) := by
  rw [m.debounce_outcome, waiting]
  cases asks : m.resize? with
  | some entry =>
    simp only [gathered, resizes, askings_of_resize? asks, List.filterMap_append,
      List.getLast?_concat]
    simp [asks, Table.ofPuts_concat, Debounce.push]
  | none =>
    cases fires : m.fires with
    | true => simp [gathered, resizes, askings_of_fires fires, Table.ofPuts]
    | false => simp [gathered, resizes, askings_of_other fires asks]

theorem gathered_history (settings : Switchboard.Settings)
    (met : (Connection.start settings delay).connection.history turns = earlier ++ m :: later) :
    m.connection.debounce = gathered delay earlier :=
  Connection.history_induction (P := fun past c => c.debounce = gathered delay past)
    (fun _ c now t waiting => gathered_turn (m := ⟨c, now, t⟩) waiting) [] rfl met

/-! ### Between two times of sending -/

/-- What was asked for before resizes were sent is no longer among what is asked for since. -/
theorem askings_append_of_fires (fires : m.fires = true) (earlier between : List Moment) :
    askings (earlier ++ m :: between) = askings between := by
  induction between using List.reverseRecOn with
  | nil => exact askings_of_fires fires
  | append_singleton between x ih =>
    rw [← List.cons_append, ← List.append_assoc]
    cases asks : x.resize? with
    | some entry => rw [askings_of_resize? asks, askings_of_resize? asks, ih]
    | none =>
      cases firesAgain : x.fires with
      | true => rw [askings_of_fires firesAgain, askings_of_fires firesAgain]
      | false => rw [askings_of_other firesAgain asks, askings_of_other firesAgain asks, ih]

/-- The last asking since resizes were last sent is the last one of all. -/
theorem getLast?_askings {last : Moment} (asked : (askings past).getLast? = some last) :
    (past.filter (·.resize?.isSome)).getLast? = some last := by
  obtain ⟨before, whole⟩ := List.rtakeWhile_suffix (!·.fires) past
  rw [← whole, List.filter_append, List.getLast?_append]
  show (askings past).getLast?.or _ = some last
  rw [asked, Option.some_or]

theorem Moment.fires_iff (m : Moment) :
    m.fires = true ↔ m.turn = .fire ∧ m.connection.debounce.isDue m.now = true := by
  obtain ⟨c, now, turn⟩ := m
  cases turn <;> simp [fires, processes, Connection.processes]

theorem isDue_gathered {now : Nat} :
    (gathered delay past).isDue now = true ↔
      ∃ last, (askings past).getLast? = some last ∧ last.now + delay ≤ now := by
  simp [gathered, Debounce.isDue, Option.any_eq_true]

/-- What waits is given to the desk, and then nothing waits. -/
theorem Moment.outcome_of_fires (fires : m.fires = true) :
    m.outcome =
      { connection :=
          { desk := (m.connection.desk.run
              (m.connection.debounce.pending.entries.map resizing)).1
            outbox := m.connection.outbox.sendAll (Effect.requests (m.connection.desk.run
              (m.connection.debounce.pending.entries.map resizing)).2)
            debounce := { delay := m.connection.debounce.delay } }
        outputs := (Effect.cues (m.connection.desk.run
          (m.connection.debounce.pending.entries.map resizing)).2).map .cue } := by
  obtain ⟨c, now, turn⟩ := m
  obtain ⟨rfl, due⟩ := (Moment.fires_iff _).mp fires
  replace due : c.debounce.isDue now = true := due
  refine (c.turn_eq now rfl).trans ?_
  simp [Connection.operations, Connection.processes, due, Turn.operations, Debounce.after,
    Debounce.take, Turn.ending?]

/-- Resizes that wait are coalesced and none is lost. They are sent just when it is tried at a time
at which the delay has passed since the presenter last asked for one, and only if one waits. Then
each terminal that was named since they were last sent is given to the desk once, with the size that
was asked for last, in the order in which the terminals were first named; after that nothing waits
and there is no deadline, and what is sent later was asked for later. When the presenter asks for a
size the deadline is put off. Nothing but that and the sending touches the deadline and what
waits. -/
theorem resizes_coalesced (settings : Switchboard.Settings) (delay : Nat)
    {turns : List (Nat × Turn)} {earlier later : List Moment} {m : Moment}
    (met : (Connection.start settings delay).connection.history turns = earlier ++ m :: later) :
    (m.fires = true ↔ m.turn = .fire ∧
      ∃ last, (askings earlier).getLast? = some last ∧ last.now + delay ≤ m.now) ∧
    (∀ last, (askings earlier).getLast? = some last →
      (earlier.filter (·.resize?.isSome)).getLast? = some last) ∧
    (m.fires = true →
      (∃ handed : List (TerminalId × Size),
        handed.map Prod.fst = ((resizes earlier).map Prod.fst).eraseDups ∧
        (∀ entry ∈ handed,
          ((resizes earlier).filter (·.1 = entry.1)).getLast? = some entry) ∧
        let (desk, effects) := m.connection.desk.run (handed.map resizing)
        m.outcome =
          { connection :=
              { desk
                outbox := m.connection.outbox.sendAll (Effect.requests effects)
                debounce := { delay, pending := {}, deadline := none } }
            outputs := (Effect.cues effects).map .cue
            ending := none }) ∧
      ∀ between, askings (earlier ++ m :: between) = askings between) ∧
    (∀ entry, m.resize? = some entry →
      m.outcome.connection.debounce.deadline = some (m.now + delay)) ∧
    (m.fires = false → m.resize? = none →
      m.outcome.connection.debounce = m.connection.debounce) := by
  have waiting := gathered_history settings met
  refine ⟨?_, fun last => getLast?_askings, fun fires => ⟨?_, ?_⟩, fun entry asks => ?_,
    fun still silent => ?_⟩
  · rw [m.fires_iff, waiting, isDue_gathered]
  · have outcome := Moment.outcome_of_fires fires
    rw [waiting] at outcome
    exact ⟨_, Table.keys_ofPuts (resizes earlier), fun _ => Table.mem_ofPuts, outcome⟩
  · exact askings_append_of_fires fires earlier
  · rw [m.debounce_outcome, asks, waiting]
    rfl
  · rw [m.debounce_outcome, silent, still]
    rfl

/-- The presenter drags two windows, the first one again; a frame comes in between, and the resizes
are sent at the second attempt. -/
def draggedTwice : List (Nat × Turn) :=
  [(0, said "host_connected" [("host_id", natural 1)]),
    (0, said "terminal_added" [("host_id", natural 1), ("terminal_id", natural 5)]),
    (0, said "terminal_added" [("host_id", natural 1), ("terminal_id", natural 6)]),
    (0, .input (.intent (.resize ⟨6⟩ ⟨80, 24⟩))),
    (10, .input (.intent (.resize ⟨5⟩ ⟨80, 24⟩))),
    (100, .input (.intent (.resize ⟨6⟩ ⟨100, 40⟩))),
    (250, .fire),
    (300, .read (.ping [])),
    (350, .fire)]

theorem resizes_coalesced_two_terminals :
    let history := (Connection.start {} 250).connection.history draggedTwice
    ∃ (earlier : List Moment) (m : Moment) (handed : List (TerminalId × Size)),
      history = earlier ++ [m] ∧ m.fires = true ∧
      handed.map Prod.fst = [⟨6⟩, ⟨5⟩] ∧
      m.outcome.connection.desk = m.connection.desk.after (handed.map resizing) ∧
      ∀ entry ∈ handed, entry.1 = ⟨6⟩ → entry.2 = ⟨100, 40⟩ := by
  intro history
  have facts : (history.getLast?.any fun m => m.turn = .fire ∧ m.now = 350) = true ∧
      (askings history.dropLast).getLast?.map (·.now) = some 100 ∧
      ((resizes history.dropLast).map Prod.fst).eraseDups = [⟨6⟩, ⟨5⟩] ∧
      ((resizes history.dropLast).filter (·.1 = ⟨6⟩)).getLast? = some (⟨6⟩, ⟨100, 40⟩) := by
    decide +kernel
  obtain ⟨ends, asked, named, newest⟩ := facts
  obtain ⟨m, last, ending⟩ := (Option.any_eq_true _ _).mp ends
  obtain ⟨turn, now⟩ := of_decide_eq_true ending
  have met : history = history.dropLast ++ [m] := (List.dropLast_append_getLast? m last).symm
  obtain ⟨when, -, sending, -, -⟩ := resizes_coalesced {} 250 met
  obtain ⟨asking, lastAsking, time⟩ := Option.map_eq_some_iff.mp asked
  have fires : m.fires = true := when.mpr ⟨turn, asking, lastAsking, by omega⟩
  obtain ⟨⟨handed, order, latest, outcome⟩, -⟩ := sending fires
  refine ⟨_, m, handed, met, fires, order.trans named, by rw [outcome]; rfl, ?_⟩
  rintro ⟨t, size⟩ mem rfl
  exact congrArg Prod.snd (Option.some.inj ((latest _ mem).symm.trans newest))

end Switchboard.Client
