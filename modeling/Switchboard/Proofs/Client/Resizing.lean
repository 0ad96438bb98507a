import Switchboard.Proofs.Client.Turn
import Switchboard.Proofs.Desk.Resizing
import Switchboard.Proofs.Keyed

/-!
# Resizes

Sizes are asked for by two paths: by the presenter, whose resizes wait, and by a command, which is
done at once. `resizes_sent` says which size the server is told, and when it is the one that was
asked for last. It is not always that one: a resize that waits knows nothing of commands or of the
end of its session (`older_size_wins`).
-/

namespace Switchboard

open Json Wire

namespace Desk

variable {d : Desk} {t : TerminalId} {size : Size}

/-! ### Resizes that have waited -/

theorem sessions_resizing (entry : TerminalId × Size) (d : Desk) :
    (handle (Client.resizing entry) d).1.sessions = d.sessions := by
  simp only [handle, Client.resizing, handleIntent, resize]
  split <;> rfl

theorem resize_mem_run {entries : List (TerminalId × Size)}
    (sent : .resize t size ∈ Effect.requests (d.run (entries.map Client.resizing)).2) :
    (t, size) ∈ entries ∧ d.sessions.contains t = true := by
  induction entries generalizing d with
  | nil => cases sent
  | cons entry entries ih =>
    rw [List.map_cons, run_cons, Effect.requests_append, List.mem_append] at sent
    rcases sent with here | later
    · obtain ⟨asked | ⟨command, _⟩, live⟩ := resize_mem_handle here
      · obtain ⟨rfl, rfl⟩ := Intent.resize.inj (Operation.intent.inj asked)
        exact ⟨List.mem_cons_self, live⟩
      · cases command
    · obtain ⟨mem, live⟩ := ih later
      rw [sessions_resizing] at live
      exact ⟨List.mem_cons_of_mem _ mem, live⟩

end Desk

namespace Client

variable {c : Connection} {turns : List (Nat × Turn)} {t : TerminalId} {size : Size} {m : Moment}
  {past : List Moment}

/-! ### Who asks, and what the server is told -/

namespace Moment

/-- The sizes that the server is told at a turn. -/
def told (m : Moment) : List (TerminalId × Size) :=
  m.requests.filterMap fun | .resize t size => some (t, size) | _ => none

def lives (m : Moment) (t : TerminalId) : Bool := m.connection.desk.sessions.contains t

/-- The size that the presenter asks for. -/
def drags? (m : Moment) (t : TerminalId) : Option Size :=
  match m.turn with
  | .input (.intent (.resize u size)) => if u = t then some size else none
  | _ => none

/-- The size that a command asks for. It is meant for the terminal that is presented. -/
def commands? (m : Moment) (t : TerminalId) : Option Size :=
  match m.turn with
  | .input (.command (.resize size)) =>
    if m.connection.desk.presented = some t then some size else none
  | _ => none

def asks? (m : Moment) (t : TerminalId) : Option Size := (m.drags? t).or (m.commands? t)

/-- Whether the resizes that wait are sent. -/
def fires (m : Moment) : Bool := m.turn = .fire && m.processes

theorem mem_told : (t, size) ∈ m.told ↔ .resize t size ∈ m.requests := by
  rw [told, List.mem_filterMap]
  constructor
  · rintro ⟨r, mem, same⟩
    cases r <;> cases same
    exact mem
  · exact fun mem => ⟨_, mem, rfl⟩

theorem drags?_of_commands? (asks : m.commands? t = some size) : m.drags? t = none := by
  unfold commands? at asks
  split at asks
  · rename_i same
    simp [drags?, same]
  · cases asks

theorem asks?_of_fires (fires : m.fires = true) : m.asks? t = none := by
  have same : m.turn = .fire := by simp_all [Moment.fires]
  simp [asks?, drags?, commands?, same]

/-- A size that the server is told of was asked for by a command just now, or has waited. -/
theorem told_cases (told : (t, size) ∈ m.told) :
    m.lives t = true ∧
      (m.commands? t = some size ∨
        m.fires = true ∧ (t, size) ∈ m.connection.debounce.pending.entries) := by
  obtain ⟨c, now, turn⟩ := m
  rw [mem_told, requests, operations, Connection.operations] at told
  split at told
  case isFalse => cases told
  case isTrue part =>
    cases turn with
    | fire =>
      obtain ⟨mem, live⟩ := Desk.resize_mem_run told
      exact ⟨live, Or.inr ⟨by simpa [fires, processes] using part, mem⟩⟩
    | read f =>
      simp only [Turn.operations] at told
      split at told
      · rw [Desk.run_single] at told
        obtain ⟨asked | ⟨command, _⟩, _⟩ := Desk.resize_mem_handle told
        · cases asked
        · cases command
      · cases told
    | input i =>
      cases i with
      | command command =>
        simp only [Turn.operations, Desk.run_single] at told
        obtain ⟨asked | ⟨same, presented⟩, live⟩ := Desk.resize_mem_handle told
        · cases asked
        · obtain rfl := Operation.command.inj same
          exact ⟨live, Or.inl (if_pos presented)⟩
      | intent i =>
        cases i with
        | resize u size' => cases told
        | _ =>
          simp only [Turn.operations, Desk.run_single] at told
          obtain ⟨asked | ⟨command, _⟩, _⟩ := Desk.resize_mem_handle told
          · cases asked
          · cases command
    | write taken | hangUp | cancel => cases part

end Moment

/-! ### The resizes that wait -/

/-- The presenter has asked for a size; since then it has not asked for another one, and no resizes
have been sent. -/
def Waits (past : List Moment) (t : TerminalId) (size : Size) : Prop :=
  ∃ before asking between, past = before ++ asking :: between ∧ asking.drags? t = some size ∧
    ∀ x ∈ between, x.drags? t = none ∧ x.fires = false

theorem Waits.append (w : Waits past t size) (silent : m.drags? t = none)
    (still : m.fires = false) : Waits (past ++ [m]) t size := by
  obtain ⟨before, asking, between, rfl, asks, quiet⟩ := w
  refine ⟨before, asking, between ++ [m], by simp, asks, ?_⟩
  intro x mem
  rcases List.mem_append.mp mem with earlier | last
  · exact quiet x earlier
  · rw [List.mem_singleton.mp last]
    exact ⟨silent, still⟩

theorem waits_of_drags (asks : m.drags? t = some size) : Waits (past ++ [m]) t size :=
  ⟨past, m, [], rfl, asks, fun x mem => by cases mem⟩

/-- What waits at a connection was asked for in the past. -/
structure Remembers (past : List Moment) (c : Connection) : Prop where
  distinct : c.debounce.pending.keys.Nodup
  waits : ∀ t size, c.debounce.pending.get? t = some size → Waits past t size

/-- A turn adds a size that the presenter asks for to those that wait, or leaves them, or sends them
all. -/
theorem Moment.pending_outcome (m : Moment) :
    (∃ u size, m.turn = .input (.intent (.resize u size)) ∧
      m.outcome.connection.debounce.pending = m.connection.debounce.pending.put u size) ∨
    (∀ t, m.drags? t = none) ∧
      m.outcome.connection.debounce.pending =
        if m.fires then {} else m.connection.debounce.pending := by
  obtain ⟨c, now, turn⟩ := m
  have pending : (c.turn now turn).connection.debounce.pending = _ :=
    (congrArg Debounce.pending (c.debounce_turn now turn)).trans (c.pending_after now turn)
  simp only [outcome, pending]
  cases turn with
  | input i =>
    cases i with
    | intent i =>
      cases i with
      | resize u size => exact Or.inl ⟨u, size, rfl, rfl⟩
      | _ => exact Or.inr ⟨fun _ => rfl, rfl⟩
    | command command => exact Or.inr ⟨fun _ => rfl, rfl⟩
  | fire => exact Or.inr ⟨fun _ => rfl, by simp [fires, processes, Turn.pending]⟩
  | read f => exact Or.inr ⟨fun _ => rfl, rfl⟩
  | write taken | hangUp | cancel => exact Or.inr ⟨fun _ => rfl, rfl⟩

theorem Remembers.turn (r : Remembers past c) (now : Nat) (turn : Turn) :
    Remembers (past ++ [⟨c, now, turn⟩]) (c.turn now turn).connection := by
  rcases (Moment.mk c now turn).pending_outcome with ⟨u, size, rfl, put⟩ | ⟨silent, left⟩
  · have put : (c.turn now _).connection.debounce.pending = c.debounce.pending.put u size := put
    refine ⟨put ▸ Table.nodup_keys_put r.distinct u size, fun t size' waiting => ?_⟩
    rw [put] at waiting
    by_cases same : t = u
    · subst same
      rw [Table.get?_put_self] at waiting
      obtain rfl := Option.some.inj waiting
      exact waits_of_drags (if_pos rfl)
    · rw [Table.get?_put_of_ne _ _ same] at waiting
      exact (r.waits t size' waiting).append (if_neg (Ne.symm same)) rfl
  · cases fires : (Moment.mk c now turn).fires with
    | true =>
      rw [fires, if_pos rfl] at left
      have left : (c.turn now turn).connection.debounce.pending = {} := left
      exact ⟨left ▸ List.nodup_nil, fun t size waiting => by rw [left] at waiting; cases waiting⟩
    | false =>
      rw [fires] at left
      have left : (c.turn now turn).connection.debounce.pending = c.debounce.pending := left
      refine ⟨left ▸ r.distinct, fun t size waiting => ?_⟩
      rw [left] at waiting
      exact (r.waits t size waiting).append (silent t) fires

theorem remembers_start (settings : Switchboard.Settings) (delay : Nat) :
    Remembers [] (Connection.start settings delay).connection :=
  ⟨List.nodup_nil, fun _ _ waiting => by cases waiting⟩

/-! ### The newest size -/

/-- The size that was asked for last of a terminal, by either path, since its session began. -/
def newest? (t : TerminalId) (moments : List Moment) : Option Size :=
  moments.foldl (fun size m => if m.lives t then (m.asks? t).or size else none) none

theorem newest?_append (t : TerminalId) (moments : List Moment) (m : Moment) :
    newest? t (moments ++ [m]) =
      if m.lives t then (m.asks? t).or (newest? t moments) else none := by
  simp [newest?]

/-- A size is still the newest one after turns at which none is asked for. -/
theorem newest?_of_quiet {between : List Moment} (newest : newest? t past = some size)
    (live : ∀ x ∈ between, x.lives t = true) (quiet : ∀ x ∈ between, x.asks? t = none) :
    newest? t (past ++ between) = some size := by
  induction between generalizing past with
  | nil => simpa using newest
  | cons x between ih =>
    obtain ⟨liveNow, live⟩ := List.forall_mem_cons.mp live
    obtain ⟨quietNow, quiet⟩ := List.forall_mem_cons.mp quiet
    have next : newest? t (past ++ [x]) = some size := by
      rw [newest?_append, liveNow, quietNow, newest]
      rfl
    simpa using ih next live quiet

/-- The law that the server is told no size but the newest one asked for in the session. -/
def NewestWins (moments : List Moment) : Prop :=
  ∀ past ∈ moments.inits, ∀ m ∈ past.getLast?, ∀ told ∈ m.told,
    newest? told.1 past = some told.2

instance (moments : List Moment) : Decidable (NewestWins moments) :=
  inferInstanceAs (Decidable (∀ past ∈ moments.inits, ∀ m ∈ past.getLast?, ∀ told ∈ m.told,
    newest? told.1 past = some told.2))

/-- A frame in which the server says something of the given kind. -/
def said (kind : String) (fields : Members) : Turn :=
  .read (.text (Value.object (("type", .text kind) :: fields)).render)

/-- The presenter asks for a size, and a command for another one before the first is sent. -/
def draggedThenSet : List (Nat × Turn) :=
  [(0, said "host_connected" [("host_id", natural 1)]),
    (0, said "terminal_added" [("host_id", natural 1), ("terminal_id", natural 5)]),
    (0, .input (.intent (.resize ⟨5⟩ ⟨80, 24⟩))),
    (0, .input (.command (.resize ⟨100, 40⟩))),
    (250, .fire)]

/-- The presenter asks for a size of a terminal that closes and comes back before it is sent. -/
def draggedThenClosed : List (Nat × Turn) :=
  [(0, said "host_connected" [("host_id", natural 1)]),
    (0, said "terminal_added" [("host_id", natural 1), ("terminal_id", natural 5)]),
    (0, .input (.intent (.resize ⟨5⟩ ⟨80, 24⟩))),
    (0, said "terminal_closed" [("terminal_id", natural 5)]),
    (0, said "terminal_added" [("host_id", natural 1), ("terminal_id", natural 5)]),
    (250, .fire)]

theorem older_size_wins :
    ¬ NewestWins ((Connection.start {} 250).connection.history draggedThenSet) ∧
      ¬ NewestWins ((Connection.start {} 250).connection.history draggedThenClosed) := by
  decide +kernel

/-- Which size the server is told. One that a command asks for is told at once, and is the newest.
One that the presenter asks for is told when resizes fire next, unless the presenter asks for
another in between. It is the newest if the session has lasted since then and no command has asked
for another. -/
theorem resizes_sent (settings : Switchboard.Settings) (delay : Nat) {earlier later : List Moment}
    (met : (Connection.start settings delay).connection.history turns = earlier ++ m :: later)
    (told : (t, size) ∈ m.told) :
    m.lives t = true ∧
      (m.commands? t = some size ∧ newest? t (earlier ++ [m]) = some size ∨
        m.fires = true ∧ ∃ before asking between, earlier = before ++ asking :: between ∧
          asking.drags? t = some size ∧
          (∀ x ∈ between, x.drags? t = none ∧ x.fires = false) ∧
          ((∀ x ∈ asking :: between, x.lives t = true) → (∀ x ∈ between, x.commands? t = none) →
            newest? t (earlier ++ [m]) = some size)) := by
  have remembers : Remembers earlier m.connection :=
    Connection.history_induction (P := Remembers) (fun _ _ now turn r => r.turn now turn) []
      (remembers_start settings delay) met
  obtain ⟨live, command | ⟨fires, waiting⟩⟩ := Moment.told_cases told
  · refine ⟨live, Or.inl ⟨command, ?_⟩⟩
    rw [newest?_append, live, Moment.asks?, Moment.drags?_of_commands? command, command]
    rfl
  · obtain ⟨before, asking, between, rfl, asks, quiet⟩ :=
      remembers.waits t size (Table.get?_of_mem remembers.distinct waiting)
    refine ⟨live, Or.inr ⟨fires, before, asking, between, rfl, asks, quiet, ?_⟩⟩
    intro lasted unasked
    obtain ⟨liveThen, lasted⟩ := List.forall_mem_cons.mp lasted
    have newest : newest? t (before ++ [asking]) = some size := by
      rw [newest?_append, liveThen, Moment.asks?, asks]
      rfl
    have newest := newest?_of_quiet newest lasted fun x mem => by
      rw [Moment.asks?, (quiet x mem).1, unasked x mem]
      rfl
    rw [newest?_append, live, Moment.asks?_of_fires fires]
    simpa using newest

theorem dragged_size_sent :
    let history := (Connection.start {} 250).connection.history draggedThenSet
    ∃ earlier m, history = earlier ++ [m] ∧ (⟨5⟩, ⟨80, 24⟩) ∈ m.told ∧ m.fires = true ∧
      ∃ before asking between, earlier = before ++ asking :: between ∧
        asking.drags? ⟨5⟩ = some ⟨80, 24⟩ := by
  intro history
  have lasts : history.getLast?.isSome := by decide +kernel
  have atLast : ∀ m ∈ history.getLast?,
      (⟨5⟩, ⟨80, 24⟩) ∈ m.told ∧ m.commands? ⟨5⟩ = none := by decide +kernel
  obtain ⟨m, last⟩ := Option.isSome_iff_exists.mp lasts
  obtain ⟨told, silent⟩ := atLast m last
  obtain ⟨earlier, met⟩ := List.getLast?_eq_some_iff.mp last
  obtain ⟨_, ⟨command, _⟩ | ⟨fires, before, asking, between, past, asks, _⟩⟩ :=
    resizes_sent {} 250 met told
  · simp [silent] at command
  · exact ⟨earlier, m, met, told, fires, before, asking, between, past, asks⟩

end Client

end Switchboard
