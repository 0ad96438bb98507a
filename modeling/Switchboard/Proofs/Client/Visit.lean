import Switchboard.Proofs.Client.Schedule
import Switchboard.Proofs.Desk.Mark

/-!
# Visits

What a client puts out, connection by connection. Each connection starts from nothing, so what is
put out during it comes of what came about during it alone (`visits_start_afresh`). This holds of
every schedule, and so of every script (`run_scheduled`).
-/

namespace Switchboard.Client

variable {c c' : Client} {k : Connection} {o : Occurrence} {os : List Occurrence}
  {out : List Output}

namespace Connection

/-- While a connection is up the presenter is not told that it is there or that it is gone. -/
theorem unmarked_turn (k : Connection) (now : Nat) (t : Turn) :
    ∀ cue ∈ Output.cues (k.turn now t).outputs, cue.record.mark? = none := by
  have silent : ∀ es, (Effect.records es).filterMap Record.mark? = [] →
      ∀ cue ∈ Effect.cues es, cue.record.mark? = none := by
    intro es unmarked cue mem
    exact List.filterMap_eq_nil_iff.mp unmarked _ (List.mem_map_of_mem mem)
  cases t with
  | write taken =>
    have none : Output.cues (k.turn now (.write taken)).outputs = [] := by
      simp only [turn, write]
      split
      · split <;> rfl
      · rfl
    simp [none]
  | _ =>
    rw [k.turn_eq now rfl, Output.cues_map_cue]
    exact silent _ (Desk.unmarked_run _ _)

theorem unmarked_run (k : Connection) (turns : List (Nat × Turn)) :
    ∀ cue ∈ Output.cues (k.run turns).outputs, cue.record.mark? = none := by
  induction turns generalizing k with
  | nil => intro cue mem; cases mem
  | cons x turns ih =>
    obtain ⟨now, t⟩ := x
    cases ending : (k.turn now t).ending with
    | some e =>
      rw [run_cons_of_ending turns ending]
      exact k.unmarked_turn now t
    | none =>
      rw [run_cons_of_none turns ending, Output.cues_append]
      exact List.forall_mem_append.mpr ⟨k.unmarked_turn now t, ih _⟩

end Connection

/-! ### The origin of time -/

namespace Debounce

/-- What waits, as it is with the clock set forward. -/
def shift (d : Debounce) (ms : Nat) : Debounce :=
  { d with deadline := d.deadline.map (· + ms) }

theorem isDue_shift (d : Debounce) (ms now : Nat) :
    (d.shift ms).isDue (now + ms) = d.isDue now := by
  simp only [shift, isDue, Option.any_map]
  congr 1
  funext deadline
  simp

theorem after_shift (d : Debounce) (ms now : Nat) (t : Turn) :
    (d.shift ms).after (now + ms) t = (d.after now t).shift ms := by
  cases t with
  | input i =>
    cases i with
    | intent i =>
      cases i with
      | resize t size => simp [after, push, shift, Nat.add_right_comm]
      | _ => rfl
    | command command => rfl
  | fire =>
    simp only [after, isDue_shift]
    split <;> rfl
  | _ => rfl

end Debounce

namespace Connection

def shift (k : Connection) (ms : Nat) : Connection := { k with debounce := k.debounce.shift ms }

/-- A connection acts on how much time has passed, and not on what the clock says. -/
theorem turn_shift (k : Connection) (ms now : Nat) (t : Turn) :
    (k.shift ms).turn (now + ms) t =
      { k.turn now t with connection := (k.turn now t).connection.shift ms } := by
  cases t with
  | write taken =>
    simp only [turn, write, shift]
    split
    · split <;> rfl
    · rfl
  | _ =>
    have same : (k.shift ms).operations (now + ms) = k.operations now := by
      funext t
      cases t <;> simp [operations, processes, shift, Debounce.isDue_shift] <;> rfl
    rw [(k.shift ms).turn_eq _ rfl, k.turn_eq now rfl, same]
    simp only [shift, Debounce.after_shift]

theorem run_shift (k : Connection) (ms : Nat) (turns : List (Nat × Turn)) :
    (k.shift ms).run (turns.map fun x => (x.1 + ms, x.2)) =
      { k.run turns with connection := (k.run turns).connection.shift ms } := by
  induction turns generalizing k with
  | nil => rfl
  | cons x turns ih =>
    obtain ⟨now, t⟩ := x
    simp only [List.map_cons, run, turn_shift]
    split
    · rfl
    · rw [ih]

/-- What a connection puts out in its turns, and at its end if they end it. -/
def lifetime (k : Connection) (turns : List (Nat × Turn)) : List Output :=
  (k.run turns).outputs ++
    if (k.run turns).ending.isSome then (k.run turns).connection.finish else []

theorem lifetime_of_ending {now : Nat} {t : Turn} {e : Ending} (turns : List (Nat × Turn))
    (ending : (k.turn now t).ending = some e) :
    k.lifetime ((now, t) :: turns) =
      (k.turn now t).outputs ++ (k.turn now t).connection.finish := by
  simp [lifetime, run_cons_of_ending turns ending, ending]

theorem lifetime_of_none {now : Nat} {t : Turn} (turns : List (Nat × Turn))
    (goesOn : (k.turn now t).ending = none) :
    k.lifetime ((now, t) :: turns) =
      (k.turn now t).outputs ++ (k.turn now t).connection.lifetime turns := by
  simp [lifetime, run_cons_of_none turns goesOn]

end Connection

/-! ### Visits -/

/-- One connection of a run: whether there was a user side when it came up, and what came about
while it was up. -/
structure Visit where
  attended : Bool
  occurrences : List Occurrence

namespace Visit

/-- The turns of a visit, with the time since its start. Nothing is in the inbox then. -/
def turns (v : Visit) : List (Nat × Turn) :=
  ({ hasUser := v.attended } : Surroundings).turns v.occurrences

/-- What becomes of a connection that starts from nothing and takes the turns of a visit. -/
def outcome (v : Visit) (settings : Settings) : Outcome :=
  (Connection.start settings.desk settings.debounce).connection.run v.turns

def isOver (v : Visit) (settings : Settings) : Bool := (v.outcome settings).ending.isSome

def outputs (v : Visit) (settings : Settings) : List Output :=
  (Connection.start settings.desk settings.debounce).outputs ++
    (Connection.start settings.desk settings.debounce).connection.lifetime v.turns

end Visit

/-- What comes about until the connection ends that is up. -/
def whileUp (c : Client) : List Occurrence → List Occurrence
  | [] => []
  | o :: os => if c.isConnected then o :: (c.step o).1.whileUp os else []

def visits (c : Client) : List Occurrence → List Visit
  | [] => []
  | o :: os =>
    (if c.milestone? o = some .accepted then [⟨c.hasUser, (c.step o).1.whileUp os⟩] else []) ++
      (c.step o).1.visits os

/-- What the connection that is up puts out from now on. -/
def remaining (c : Client) (os : List Occurrence) : List Output :=
  match c.phase with
  | .connected k => k.lifetime (c.surroundings.turns (c.whileUp os))
  | _ => []

theorem Surroundings.turns_later (s : Surroundings) (ms : Nat) (os : List Occurrence) :
    { s with now := s.now + ms }.turns os = (s.turns os).map fun x => (x.1 + ms, x.2) := by
  induction os generalizing s with
  | nil => rfl
  | cons o os ih =>
    have turn : { s with now := s.now + ms }.turn? o = s.turn? o := by
      cases o with
      | happens h => cases h <;> rfl
      | _ => rfl
    have after : { s with now := s.now + ms }.after o =
        { s.after o with now := (s.after o).now + ms } := by
      cases o with
      | happens h =>
        cases h with
        | submit i => simp only [Surroundings.after]; split <;> rfl
        | advance more => simp [Surroundings.after, Nat.add_right_comm]
        | _ => rfl
      | _ => rfl
    simp only [turns, turn, after, ih, List.map_append]
    cases s.turn? o <;> rfl

/-- What becomes of a connection that starts does not depend on what the clock says. -/
theorem start_later (settings : Settings) (now : Nat) (attended : Bool) (os : List Occurrence) :
    let outcome := (Visit.mk attended os).outcome settings
    (Connection.start settings.desk settings.debounce).connection.run
        ((⟨now, [], attended⟩ : Surroundings).turns os) =
      { outcome with connection := outcome.connection.shift now } := by
  intro outcome
  have later : (⟨now, [], attended⟩ : Surroundings).turns os =
      (Visit.mk attended os).turns.map fun x => (x.1 + now, x.2) := by
    simpa [Visit.turns] using Surroundings.turns_later { hasUser := attended } now os
  rw [later]
  exact (Connection.start settings.desk settings.debounce).connection.run_shift now _

theorem ending_later (settings : Settings) (now : Nat) (attended : Bool) (os : List Occurrence) :
    ((Connection.start settings.desk settings.debounce).connection.run
        ((⟨now, [], attended⟩ : Surroundings).turns os)).ending =
      ((Visit.mk attended os).outcome settings).ending := by
  rw [start_later]

theorem lifetime_later (settings : Settings) (now : Nat) (attended : Bool) (os : List Occurrence) :
    (Connection.start settings.desk settings.debounce).connection.lifetime
        ((⟨now, [], attended⟩ : Surroundings).turns os) =
      (Connection.start settings.desk settings.debounce).connection.lifetime
        (Visit.mk attended os).turns := by
  simp only [Connection.lifetime, start_later]
  rfl

/-! ### What a client puts out -/

theorem remaining_of_apart (apart : c.isConnected = false) (os : List Occurrence) :
    c.remaining os = [] := by
  unfold remaining
  split
  · rename_i k up
    exact absurd up (isConnected_eq_false.mp apart k)
  · rfl

theorem remaining_of_connected (up : c.phase = .connected k) (os : List Occurrence) :
    c.remaining os = k.lifetime (c.surroundings.turns (c.whileUp os)) := by
  simp [remaining, up]

theorem remaining_cons (up : c.phase = .connected k) (o : Occurrence) (os : List Occurrence) :
    c.remaining (o :: os) =
      k.lifetime (c.surroundings.turns (o :: (c.step o).1.whileUp os)) := by
  simp [remaining, up, whileUp, isConnected]

theorem isConnected_refused (connecting : c.phase = .connecting) (cause : String) :
    (c.refused cause).isConnected = false := by
  unfold refused
  repeat' split
  · simp [isConnected, connecting]
  all_goals rfl

theorem isConnected_ended (c : Client) (e : Ending) : (c.ended e).isConnected = false := by
  cases e with
  | lost fault =>
    unfold ended
    dsimp only
    split <;> rfl
  | _ => rfl

theorem isConnected_advance (c : Client) (ms : Nat) :
    (c.advance ms).isConnected = c.isConnected := by
  cases phase : c.phase with
  | waiting wake =>
    by_cases due : wake ≤ c.now + ms <;> simp [advance, isConnected, phase, due]
  | _ => simp [advance, isConnected, phase]

/-- What a step and the rest of a connection put out is the rest of the connection that was up, or
all of one that has just come up. -/
theorem outputs_step (c : Client) (o : Occurrence) (os : List Occurrence) :
    (c.step o).2 ++ (c.step o).1.remaining os =
      c.remaining (o :: os) ++
        if c.milestone? o = some .accepted then
          (Visit.mk c.hasUser ((c.step o).1.whileUp os)).outputs c.settings
        else [] := by
  have up_cons : ∀ k, c.phase = .connected k → c.remaining (o :: os) = _ :=
    fun k up => remaining_cons up o os
  have moves := c.step_moves o
  generalize (c.step o).1 = c', (c.step o).2 = out, c.milestone? o = m at moves up_cons ⊢
  -- A client that is not connected, before or after, has nothing left of a connection.
  have before : c.isConnected = false → c.remaining (o :: os) = [] :=
    fun apart => remaining_of_apart apart (o :: os)
  cases moves with
  | accepted connecting =>
    rw [before (by simp [isConnected, connecting]), remaining_of_connected rfl, List.nil_append,
      if_pos rfl]
    exact congrArg (_ ++ ·) (lifetime_later c.settings c.now c.hasUser _)
  | refused connecting cause =>
    rw [before (by simp [isConnected, connecting]),
      remaining_of_apart (isConnected_refused connecting cause)]
    rfl
  | gaveUp apart running =>
    rw [before apart, remaining_of_apart rfl]
    rfl
  | waited apart ms =>
    rw [before apart, remaining_of_apart ((c.isConnected_advance ms).trans apart)]
    rfl
  | kept apart s still =>
    have after : (c.amid s).isConnected = false := apart
    rw [before apart, remaining_of_apart after]
    rfl
  | @stayed o k up noTurn =>
    have later : (c.amid (c.surroundings.after o)).phase = .connected k := up
    rw [up_cons k up, remaining_of_connected later, Surroundings.turns, noTurn, if_neg (by simp),
      List.append_nil]
    rfl
  | @turned o k t up taken goesOn =>
    rw [up_cons k up, remaining_of_connected rfl, Surroundings.turns, taken, if_neg (by simp),
      List.append_nil]
    exact (Connection.lifetime_of_none _ goesOn).symm
  | @ended o k t e up taken ending =>
    rw [up_cons k up, remaining_of_apart (isConnected_ended _ e), Surroundings.turns, taken,
      if_neg (by simp), List.append_nil, List.append_nil]
    exact (Connection.lifetime_of_ending _ ending).symm

theorem outputs_play (c : Client) (os : List Occurrence) :
    (c.play os).2 = c.remaining os ++ (c.visits os).flatMap (Visit.outputs · c.settings) := by
  induction os generalizing c with
  | nil =>
    cases phase : c.phase with
    | connected k => rw [remaining_of_connected phase]; rfl
    | _ => rw [remaining_of_apart (by simp [isConnected, phase])]; rfl
  | cons o os ih =>
    have first := c.outputs_step o os
    have same := (c.step_moves o).settings
    rw [play_cons, ih, same, visits, List.flatMap_append, ← List.append_assoc, first]
    split <;> simp

/-! ### The parts of a run -/

theorem milestone?_eq_accepted (accepted : c.milestone? o = some .accepted) :
    c.phase = .connecting ∧ o = .happens .accepted := by
  have moves := c.step_moves o
  generalize (c.step o).1 = c', (c.step o).2 = out at moves
  rw [accepted] at moves
  cases moves with
  | accepted connecting => exact ⟨connecting, rfl⟩

theorem step_accepted (connecting : c.phase = .connecting) :
    c.step (.happens .accepted) =
      ({ c with
          phase := .connected (Connection.start c.settings.desk c.settings.debounce).connection
          attempt := 0
          wasConnected := true
          inbox := [] },
        (Connection.start c.settings.desk c.settings.debounce).outputs) := by
  simp [step, apply, accepted, isConnecting, connecting]

/-- A connection that has not ended is up at the end of the run, and none comes after it. -/
theorem lasts_of_open (up : c.phase = .connected k)
    (isOpen : (k.run (c.surroundings.turns (c.whileUp os))).ending = none) :
    c.visits os = [] ∧ (c.play os).1.isConnected = true := by
  induction os generalizing c k with
  | nil => exact ⟨rfl, by simp [play, isConnected, up]⟩
  | cons o os ih =>
    have isUp : c.isConnected = true := by simp [isConnected, up]
    have notAccepted : c.milestone? o ≠ some .accepted := by
      intro accepted
      simp [(milestone?_eq_accepted accepted).1] at up
    rw [visits, if_neg notAccepted, List.nil_append, play_cons]
    rw [whileUp, if_pos isUp, Surroundings.turns] at isOpen
    have moves := c.step_moves o
    generalize (c.step o).1 = c', (c.step o).2 = out, c.milestone? o = m at moves isOpen ⊢
    cases moves with
    | accepted other | refused other => simp [other] at up
    | gaveUp apart | waited apart | kept apart => simp [isUp] at apart
    | @stayed o k' up' noTurn =>
      obtain rfl := Phase.connected.inj (up.symm.trans up')
      rw [noTurn] at isOpen
      exact ih (c := c.amid (c.surroundings.after o)) up isOpen
    | @turned o k' t up' taken goesOn =>
      obtain rfl := Phase.connected.inj (up.symm.trans up')
      rw [taken] at isOpen
      change (k.run ((c.now, t) :: _)).ending = none at isOpen
      rw [Connection.run_cons_of_none _ goesOn] at isOpen
      exact ih rfl isOpen
    | @ended o k' t e up' taken ending =>
      obtain rfl := Phase.connected.inj (up.symm.trans up')
      rw [taken] at isOpen
      change (k.run ((c.now, t) :: _)).ending = none at isOpen
      rw [Connection.run_cons_of_ending _ ending, ending] at isOpen
      cases isOpen

/-- A visit that is not over is the last one, and still goes on at the end of the run. -/
theorem open_visit {earlier later : List Visit} {v : Visit}
    (split : c.visits os = earlier ++ v :: later) (isOpen : v.isOver c.settings = false) :
    later = [] ∧ (c.play os).1.isConnected = true := by
  induction os generalizing c earlier with
  | nil => simp [visits] at split
  | cons o os ih =>
    have same := (c.step_moves o).settings
    rw [play_cons]
    rw [visits] at split
    by_cases accepted : c.milestone? o = some .accepted
    · rw [if_pos accepted, List.singleton_append] at split
      cases earlier with
      | cons v' earlier => exact ih (List.cons.inj split).2 (by rwa [same])
      | nil =>
        obtain ⟨rfl, rfl⟩ := List.cons.inj split
        obtain ⟨connecting, rfl⟩ := milestone?_eq_accepted accepted
        have start : c.step (.happens .accepted) = _ := step_accepted connecting
        rw [start] at isOpen ⊢
        refine lasts_of_open rfl ((ending_later c.settings c.now c.hasUser _).trans ?_)
        simpa [Visit.isOver] using isOpen
    · rw [if_neg accepted, List.nil_append] at split
      exact ih split (by rwa [same])

/-- The script of a visit. -/
def Visit.script (v : Visit) : List Occurrence := .happens .accepted :: v.occurrences

/-- The visits of a run are parts of it that come one after another. -/
theorem script_sublist (c : Client) (os : List Occurrence) :
    (c.whileUp os ++ (c.visits os).flatMap Visit.script).Sublist os := by
  induction os generalizing c with
  | nil => exact List.Sublist.refl []
  | cons o os ih =>
    have rest := ih (c.step o).1
    by_cases accepted : c.milestone? o = some .accepted
    · obtain ⟨connecting, rfl⟩ := milestone?_eq_accepted accepted
      have apart : c.isConnected = false := by simp [isConnected, connecting]
      rw [whileUp, visits, if_pos accepted, apart]
      exact rest.cons_cons _
    · rw [whileUp, visits, if_neg accepted, List.nil_append]
      split
      · exact rest.cons_cons o
      · exact ((List.sublist_append_right _ _).trans rest).cons o

/-! ### What a visit processes -/

def Occurrence.frame? : Occurrence → Option Wire.Frame
  | .happens (.read f) => some f
  | _ => none

def Occurrence.input? : Occurrence → Option Input
  | .happens (.submit i) => some i
  | _ => none

namespace Turn

def frame? : Turn → Option Wire.Frame
  | read f => some f
  | _ => none

def input? : Turn → Option Input
  | input i => some i
  | _ => none

end Turn

theorem frames_turns (s : Surroundings) (os : List Occurrence) :
    (s.turns os).filterMap (·.2.frame?) = os.filterMap Occurrence.frame? := by
  induction os generalizing s with
  | nil => rfl
  | cons o os ih =>
    have here : ((s.turn? o).map (s.now, ·)).toList.filterMap (·.2.frame?) = o.frame?.toList := by
      cases o with
      | happens h => cases h <;> rfl
      | takeInput => cases inbox : s.inbox <;> simp [Surroundings.turn?, inbox, Turn.frame?] <;> rfl
      | noticeHangUp => simp only [Surroundings.turn?]; split <;> rfl
      | write taken | fire => rfl
    rw [Surroundings.turns, List.filterMap_append, ih, here, List.filterMap_cons]
    cases o.frame? <;> rfl

/-- An input that is taken leaves the inbox; one that comes enters it if there is a user side. -/
theorem inputs_turn (s : Surroundings) (o : Occurrence) :
    (((s.turn? o).map (s.now, ·)).toList.filterMap (·.2.input?) ++ (s.after o).inbox).Sublist
      (s.inbox ++ o.input?.toList) := by
  cases o with
  | happens h =>
    cases h with
    | submit i =>
      cases user : s.hasUser <;>
        simp [Surroundings.turn?, Surroundings.after, user, Occurrence.input?]
    | _ => exact List.sublist_append_left _ _
  | takeInput =>
    cases inbox : s.inbox <;>
      simp [Surroundings.turn?, Surroundings.after, inbox, Turn.input?, Occurrence.input?]
  | noticeHangUp =>
    simp only [Surroundings.turn?]
    split <;> exact List.sublist_append_left _ _
  | write taken | fire => exact List.sublist_append_left _ _

/-- Inputs are taken in order, and no others than those that are in the inbox or come later. -/
theorem inputs_turns (s : Surroundings) (os : List Occurrence) :
    ((s.turns os).filterMap (·.2.input?)).Sublist
      (s.inbox ++ os.filterMap Occurrence.input?) := by
  induction os generalizing s with
  | nil => exact List.nil_sublist _
  | cons o os ih =>
    have rest := (ih (s.after o)).append_left
      (((s.turn? o).map (s.now, ·)).toList.filterMap (·.2.input?))
    have first := (inputs_turn s o).append_right (os.filterMap Occurrence.input?)
    rw [Surroundings.turns, List.filterMap_append]
    rw [← List.append_assoc] at rest
    refine rest.trans (first.trans ?_)
    rw [List.append_assoc, List.filterMap_cons]
    cases o.input? <;> exact List.Sublist.refl _

/-- The presenter is told at the start of a visit that the connection is there, at the end that it
is gone, and neither in between. -/
theorem Visit.cues_outputs (v : Visit) (settings : Settings) :
    ∃ middle, Output.cues (v.outputs settings) =
        .connected :: middle ++ (if v.isOver settings then [.disconnected] else []) ∧
      ∀ cue ∈ middle, cue ≠ .connected ∧ cue ≠ .disconnected := by
  let k := (Connection.start settings.desk settings.debounce).connection
  refine ⟨Output.cues (v.outcome settings).outputs, ?_, fun cue mem => ?_⟩
  · have start : Output.cues (Connection.start settings.desk settings.debounce).outputs =
        [.connected] := Output.cues_map_cue _
    have finish : ∀ k : Connection, Output.cues k.finish = [.disconnected] :=
      fun k => Output.cues_map_cue _
    have parts : v.outputs settings =
        (Connection.start settings.desk settings.debounce).outputs ++
          ((v.outcome settings).outputs ++
            if v.isOver settings then (v.outcome settings).connection.finish else []) := rfl
    rw [parts, Output.cues_append, Output.cues_append, start]
    cases v.isOver settings with
    | true => simp [finish]
    | false => simp [Output.cues]
  · have unmarked := k.unmarked_run v.turns cue mem
    constructor <;> rintro rfl <;> cases unmarked

/-- What a client puts out is, visit by visit, what connections put out that start from nothing and
take no other turns than those of what came about during the visit. The presenter is told that the
connection is there at the start of a visit, that it is gone at the end, and neither in between; it
is told nothing outside of visits. All visits are over but the last one of a client that is still
connected. -/
theorem visits_start_afresh (settings : Settings) (os : List Occurrence) :
    let c : Client := { settings }
    (c.play os).2 = (c.visits os).flatMap (Visit.outputs · settings) ∧
    (∀ v ∈ c.visits os,
      (∃ middle, Output.cues (v.outputs settings) =
          .connected :: middle ++ (if v.isOver settings then [.disconnected] else []) ∧
        ∀ cue ∈ middle, cue ≠ .connected ∧ cue ≠ .disconnected) ∧
      v.turns.filterMap (·.2.frame?) = v.occurrences.filterMap Occurrence.frame? ∧
      (v.turns.filterMap (·.2.input?)).Sublist (v.occurrences.filterMap Occurrence.input?)) ∧
    (∀ earlier v later, c.visits os = earlier ++ v :: later → v.isOver settings = false →
      later = [] ∧ (c.play os).1.isConnected = true) ∧
    ((c.visits os).flatMap Visit.script).Sublist os := by
  intro c
  refine ⟨?_, fun v _ => ⟨v.cues_outputs settings, frames_turns _ _, inputs_turns _ _⟩,
    fun _ _ _ split isOpen => open_visit split isOpen,
    (List.sublist_append_right _ _).trans (script_sublist c os)⟩
  have apart : c.remaining os = [] := remaining_of_apart rfl os
  rw [outputs_play, apart, List.nil_append]

end Switchboard.Client
