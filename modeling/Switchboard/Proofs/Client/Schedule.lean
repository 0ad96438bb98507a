import Switchboard.Client.Script
import Switchboard.Proofs.Client.Turn

/-!
# Schedules

A client takes its turns in some order, between the things that happen to it from outside. A
schedule is any such order, with writes that fail among it. `step_moves` says all that a step of a
schedule can do. The order in which `Client.run` takes the turns is one of them (`run_scheduled`).
-/

namespace Switchboard.Client

variable {c : Client} {k : Connection} {o : Occurrence}

/-- What comes about during a run: things from outside, and the turns of the client. -/
inductive Occurrence where
  | happens (h : Happening)
  | write (taken : Bool)
  | takeInput
  | noticeHangUp
  | fire
deriving DecidableEq, Repr

/-- What a client has around its connection: the clock, and the user side. -/
structure Surroundings where
  now : Nat := 0
  inbox : List Input := []
  hasUser : Bool := true
deriving DecidableEq, Repr

namespace Surroundings

/-- The turn that a connection takes when something comes about. The user side is gone for it once
the inbox is empty. -/
def turn? (s : Surroundings) : Occurrence → Option Turn
  | .happens (.read f) => some (.read f)
  | .happens .cancel => some .cancel
  | .happens _ => none
  | .write taken => some (.write taken)
  | .takeInput => s.inbox.head?.map .input
  | .noticeHangUp => if s.inbox = [] ∧ s.hasUser = false then some .hangUp else none
  | .fire => some .fire

def after (s : Surroundings) : Occurrence → Surroundings
  | .happens (.submit i) => if s.hasUser then { s with inbox := s.inbox ++ [i] } else s
  | .happens .hangUp => { s with hasUser := false }
  | .happens (.advance ms) => { s with now := s.now + ms }
  | .takeInput => { s with inbox := s.inbox.tail }
  | _ => s

/-- The turns that a connection takes, each with its time. -/
def turns (s : Surroundings) : List Occurrence → List (Nat × Turn)
  | [] => []
  | o :: os => ((s.turn? o).map (s.now, ·)).toList ++ (s.after o).turns os

end Surroundings

def surroundings (c : Client) : Surroundings := ⟨c.now, c.inbox, c.hasUser⟩

def amid (c : Client) (s : Surroundings) : Client :=
  { c with now := s.now, inbox := s.inbox, hasUser := s.hasUser }

def step (c : Client) : Occurrence → Client × List Output
  | .happens (.read f) => c.turn (.read f)
  | .happens h => c.apply h
  | .write taken => c.turn (.write taken)
  | .takeInput =>
    match c.inbox with
    | i :: rest => if c.isConnected then { c with inbox := rest }.turn (.input i) else (c, [])
    | [] => (c, [])
  | .noticeHangUp => if c.inbox = [] ∧ c.hasUser = false then c.turn .hangUp else (c, [])
  | .fire => c.turn .fire

def play (c : Client) : List Occurrence → Client × List Output
  | [] => (c, [])
  | o :: os =>
    let (c, out) := c.step o
    let (c, more) := c.play os
    (c, out ++ more)

theorem play_cons (c : Client) (o : Occurrence) (os : List Occurrence) :
    c.play (o :: os) =
      (((c.step o).1.play os).1, (c.step o).2 ++ ((c.step o).1.play os).2) := rfl

theorem play_append (c : Client) (os more : List Occurrence) :
    c.play (os ++ more) =
      (((c.play os).1.play more).1, (c.play os).2 ++ ((c.play os).1.play more).2) := by
  induction os generalizing c with
  | nil => rfl
  | cons o os ih => simp [play_cons, ih]

/-! ### One step -/

theorem isConnected_eq_false : c.isConnected = false ↔ ∀ k, c.phase ≠ .connected k := by
  unfold isConnected
  cases c.phase <;> simp

theorem turn_of_apart (apart : c.isConnected = false) (t : Turn) : c.turn t = (c, []) := by
  unfold turn
  split
  · rename_i k up
    exact absurd up (isConnected_eq_false.mp apart k)
  · rfl

theorem turn_of_connected {now : Nat} (up : c.phase = .connected k) (same : c.now = now)
    (t : Turn) :
    c.turn t =
      match (k.turn now t).ending with
      | none => ({ c with phase := .connected (k.turn now t).connection }, (k.turn now t).outputs)
      | some e =>
        (c.ended e, (k.turn now t).outputs ++ (k.turn now t).connection.finish) := by
  obtain ⟨settings, phase, attempt, wasConnected, inbox, hasUser, at'⟩ := c
  cases up
  cases same
  rfl

/-- What comes about while a connection is up is a turn of it or changes what is around it. -/
theorem step_of_connected (up : c.phase = .connected k) (o : Occurrence) :
    c.step o =
      match c.surroundings.turn? o with
      | some t => (c.amid (c.surroundings.after o)).turn t
      | none => (c.amid (c.surroundings.after o), []) := by
  obtain ⟨settings, phase, attempt, wasConnected, inbox, hasUser, now⟩ := c
  cases up
  cases o with
  | happens h =>
    cases h with
    | submit i => cases hasUser <;> rfl
    | _ => rfl
  | takeInput => cases inbox <;> rfl
  | noticeHangUp =>
    by_cases gone : inbox = [] ∧ hasUser = false <;>
      simp [step, gone, Surroundings.turn?, Surroundings.after, amid, surroundings]
  | write taken => rfl
  | fire => rfl

theorem Surroundings.now_after {s : Surroundings} {t : Turn} (taken : s.turn? o = some t) :
    (s.after o).now = s.now := by
  cases o with
  | happens h => cases h <;> first | rfl | cases taken
  | _ => rfl

/-- What decides the course of a run: an attempt to connect succeeds or fails, or there is an end to
a connection or to the wait for one. -/
inductive Milestone where
  | accepted
  | refused (cause : String)
  | ended (e : Ending)
deriving DecidableEq, Repr

def milestone? (c : Client) (o : Occurrence) : Option Milestone :=
  match c.phase, o with
  | .connecting, .happens .accepted => some .accepted
  | .connecting, .happens (.refused cause) => some (.refused cause)
  | .connecting, .happens .cancel | .waiting _, .happens .cancel => some (.ended .cancelled)
  | .connected k, o =>
    ((c.surroundings.turn? o).bind fun t => (k.turn c.now t).ending).map .ended
  | _, _ => none

/-- All that a step can do: its milestone, the client after it and what is put out. -/
inductive Moves (c : Client) : Occurrence → Option Milestone → Client → List Output → Prop
  | accepted (connecting : c.phase = .connecting) :
      Moves c (.happens .accepted) (some .accepted)
        { c with
          phase := .connected (Connection.start c.settings.desk c.settings.debounce).connection
          attempt := 0
          wasConnected := true
          inbox := [] }
        (Connection.start c.settings.desk c.settings.debounce).outputs
  | refused (connecting : c.phase = .connecting) (cause : String) :
      Moves c (.happens (.refused cause)) (some (.refused cause)) (c.refused cause) []
  | gaveUp (apart : c.isConnected = false) (running : c.result? = none) :
      Moves c (.happens .cancel) (some (.ended .cancelled)) (c.stop (.ok ())) []
  | waited (apart : c.isConnected = false) (ms : Nat) :
      Moves c (.happens (.advance ms)) none (c.advance ms) []
  | kept {o : Occurrence} (apart : c.isConnected = false) (s : Surroundings)
      (still : s.now = c.now) : Moves c o none (c.amid s) []
  | stayed {o : Occurrence} {k : Connection} (up : c.phase = .connected k)
      (noTurn : c.surroundings.turn? o = none) :
      Moves c o none (c.amid (c.surroundings.after o)) []
  | turned {o : Occurrence} {k : Connection} {t : Turn} (up : c.phase = .connected k)
      (taken : c.surroundings.turn? o = some t) (goesOn : (k.turn c.now t).ending = none) :
      Moves c o none
        { c.amid (c.surroundings.after o) with
          phase := .connected (k.turn c.now t).connection }
        (k.turn c.now t).outputs
  | ended {o : Occurrence} {k : Connection} {t : Turn} {e : Ending} (up : c.phase = .connected k)
      (taken : c.surroundings.turn? o = some t) (ending : (k.turn c.now t).ending = some e) :
      Moves c o (some (.ended e)) ((c.amid (c.surroundings.after o)).ended e)
        ((k.turn c.now t).outputs ++ (k.turn c.now t).connection.finish)

theorem Moves.idle (apart : c.isConnected = false) (stays : c.step o = (c, []))
    (nothing : c.milestone? o = none) : c.Moves o (c.milestone? o) (c.step o).1 (c.step o).2 := by
  rw [stays, nothing]
  exact .kept apart c.surroundings rfl

theorem milestone?_of_apart (apart : c.isConnected = false) (own : ∀ h, o ≠ .happens h) :
    c.milestone? o = none := by
  cases phase : c.phase with
  | connected k => exact absurd phase (isConnected_eq_false.mp apart k)
  | _ =>
    cases o with
    | happens h => exact absurd rfl (own h)
    | _ => simp [milestone?, phase]

theorem moves_of_apart (apart : c.isConnected = false) (o : Occurrence) :
    c.Moves o (c.milestone? o) (c.step o).1 (c.step o).2 := by
  have still : ∀ t, c.turn t = (c, []) := turn_of_apart apart
  cases o with
  | happens h =>
    obtain ⟨settings, phase, attempt, wasConnected, inbox, hasUser, now⟩ := c
    cases phase with
    | connected k => cases apart
    | _ =>
      -- What happens matters in some phases and is idle in the others.
      cases h with
      | accepted => first | exact .accepted rfl | exact .idle rfl rfl rfl
      | refused cause => first | exact .refused rfl cause | exact .idle rfl rfl rfl
      | cancel => first | exact .gaveUp rfl rfl | exact .idle rfl rfl rfl
      | advance ms => exact .waited rfl ms
      | hangUp => exact .kept rfl ⟨now, inbox, false⟩ rfl
      | read f => exact .idle rfl rfl rfl
      | submit i =>
        cases hasUser with
        | true => first | exact .kept rfl ⟨now, inbox ++ [i], true⟩ rfl | exact .idle rfl rfl rfl
        | false => exact .idle rfl rfl rfl
  | write taken => exact .idle apart (still _) (milestone?_of_apart apart (by simp))
  | fire => exact .idle apart (still _) (milestone?_of_apart apart (by simp))
  | takeInput =>
    refine .idle apart ?_ (milestone?_of_apart apart (by simp))
    simp only [step, apart]
    split <;> rfl
  | noticeHangUp =>
    refine .idle apart ?_ (milestone?_of_apart apart (by simp))
    simp only [step, still, ite_self]

theorem step_moves (c : Client) (o : Occurrence) :
    c.Moves o (c.milestone? o) (c.step o).1 (c.step o).2 := by
  cases isUp : c.isConnected with
  | false => exact moves_of_apart isUp o
  | true =>
    obtain ⟨k, up⟩ : ∃ k, c.phase = .connected k := by
      cases phase : c.phase <;> simp_all [isConnected]
    rw [step_of_connected up]
    cases taken : c.surroundings.turn? o with
    | none =>
      have none : c.milestone? o = none := by simp [milestone?, up, taken]
      rw [none]
      exact .stayed up taken
    | some t =>
      have now : (c.amid (c.surroundings.after o)).now = c.now := Surroundings.now_after taken
      have sameUp : (c.amid (c.surroundings.after o)).phase = .connected k := up
      have milestone : c.milestone? o = (k.turn c.now t).ending.map .ended := by
        simp [milestone?, up, taken]
      simp only [turn_of_connected sameUp now, milestone]
      cases ending : (k.turn c.now t).ending with
      | none => exact .turned up taken ending
      | some e => exact .ended up taken ending

theorem Moves.settings {c' : Client} {m : Option Milestone} {out : List Output}
    (moves : c.Moves o m c' out) : c'.settings = c.settings := by
  cases moves with
  | refused =>
    unfold Client.refused
    repeat' split
    all_goals rfl
  | waited apart ms =>
    unfold Client.advance
    split <;> rfl
  | ended =>
    unfold Client.ended
    repeat' split
    all_goals rfl
  | _ => rfl

theorem settings_play (c : Client) (os : List Occurrence) :
    (c.play os).1.settings = c.settings := by
  induction os generalizing c with
  | nil => rfl
  | cons o os ih => exact (ih (c.step o).1).trans (c.step_moves o).settings

/-! ### The order of a script -/

def Occurrence.happening? : Occurrence → Option Happening
  | .happens h => some h
  | _ => none

/-- A client comes to this, and puts that out, by turns of its own. -/
def Takes (c : Client) (result : Client × List Output) : Prop :=
  ∃ os : List Occurrence, os.filterMap Occurrence.happening? = [] ∧ c.play os = result

theorem Takes.append {first rest : Client × List Output} (t : c.Takes first)
    (t' : first.1.Takes rest) : c.Takes (rest.1, first.2 ++ rest.2) := by
  obtain ⟨os, own, rfl⟩ := t
  obtain ⟨more, own', rfl⟩ := t'
  exact ⟨os ++ more, by simp [own, own'], c.play_append os more⟩

theorem takes_step (own : o.happening? = none) : c.Takes (c.step o) :=
  ⟨[o], by simp [own], by simp [play]⟩

theorem takes_drain (c : Client) : c.Takes c.drain := by
  unfold drain
  induction c.queued generalizing c with
  | zero => exact ⟨[], rfl, rfl⟩
  | succ n ih => exact (takes_step (c := c) (o := .write true) rfl).append (ih _)

theorem takes_turnAndDrain {c' : Client} {t : Turn} (own : o.happening? = none)
    (same : c.step o = c'.turn t) : c.Takes (c'.turnAndDrain t) := by
  have turned := takes_step (c := c) own
  rw [same] at turned
  exact turned.append (takes_drain _)

@[simp]
theorem turnsAndDrain_singleton (c : Client) (t : Turn) :
    c.turnsAndDrain [t] = c.turnAndDrain t := by
  simp [turnsAndDrain]

theorem turnsAndDrain_append (c : Client) (ts more : List Turn) :
    c.turnsAndDrain (ts ++ more) =
      (((c.turnsAndDrain ts).1.turnsAndDrain more).1,
        (c.turnsAndDrain ts).2 ++ ((c.turnsAndDrain ts).1.turnsAndDrain more).2) := by
  induction ts generalizing c with
  | nil => rfl
  | cons t ts ih => simp [turnsAndDrain, ih]

/-- The client with another user side. -/
def facing (c : Client) (inbox : List Input) (hasUser : Bool) : Client := { c with inbox, hasUser }

/-- The user side plays no part in a turn. -/
theorem turn_facing (c : Client) (inbox : List Input) (hasUser : Bool) (t : Turn) :
    (c.facing inbox hasUser).turn t = ((c.turn t).1.facing inbox hasUser, (c.turn t).2) := by
  obtain ⟨settings, phase, attempt, wasConnected, inbox', hasUser', now⟩ := c
  cases phase with
  | connected k =>
    simp only [turn, facing]
    cases (k.turn now t).ending with
    | none => rfl
    | some e =>
      cases e with
      | lost fault =>
        simp only [ended, stop, retry]
        split <;> rfl
      | cancelled | hungUp => rfl
  | _ => rfl

theorem turns_facing (c : Client) (inbox : List Input) (hasUser : Bool) (ts : List Turn) :
    (c.facing inbox hasUser).turns ts = ((c.turns ts).1.facing inbox hasUser, (c.turns ts).2) := by
  induction ts generalizing c with
  | nil => rfl
  | cons t ts ih => simp only [turns, turn_facing, ih]

theorem turnsAndDrain_facing (c : Client) (inbox : List Input) (hasUser : Bool) (ts : List Turn) :
    (c.facing inbox hasUser).turnsAndDrain ts =
      ((c.turnsAndDrain ts).1.facing inbox hasUser, (c.turnsAndDrain ts).2) := by
  induction ts generalizing c with
  | nil => rfl
  | cons t ts ih =>
    have same : ∀ c : Client, (c.facing inbox hasUser).queued = c.queued := fun _ => rfl
    simp only [turnsAndDrain, turnAndDrain, drain, turn_facing, same, turns_facing, ih]

theorem isConnected_turn {t : Turn} (isUp : c.isConnected = true)
    (lasts : ∀ (k : Connection) now, (k.turn now t).ending = none) :
    (c.turn t).1.isConnected = true := by
  cases phase : c.phase with
  | connected k =>
    rw [turn_of_connected phase rfl, lasts]
    rfl
  | _ => simp [isConnected, phase] at isUp

theorem Connection.ending_write (k : Connection) (now : Nat) :
    (k.turn now (.write true)).ending = none := by
  simp only [turn, write]
  split <;> rfl

theorem isConnected_drain (isUp : c.isConnected = true) : c.drain.1.isConnected = true := by
  unfold drain
  induction c.queued generalizing c with
  | zero => exact isUp
  | succ n ih => exact ih (isConnected_turn isUp Connection.ending_write)

theorem isConnected_turnAndDrain (isUp : c.isConnected = true) (i : Input) :
    (c.turnAndDrain (.input i)).1.isConnected = true :=
  isConnected_drain (isConnected_turn isUp fun k now => by rw [k.turn_eq now rfl]; rfl)

/-- The inputs that a script takes all at once are taken one by one from the inbox. -/
theorem takes_inputs (isUp : c.isConnected = true) (inbox : List Input) (hasUser : Bool) :
    (c.facing inbox hasUser).Takes ((c.facing [] hasUser).turnsAndDrain (inbox.map .input)) := by
  induction inbox generalizing c with
  | nil => exact ⟨[], rfl, rfl⟩
  | cons i inbox ih =>
    have first : (c.facing (i :: inbox) hasUser).Takes
        ((c.facing inbox hasUser).turnsAndDrain [.input i]) := by
      rw [turnsAndDrain_singleton]
      exact takes_turnAndDrain (o := .takeInput) rfl (if_pos isUp)
    have rest := ih (isConnected_turnAndDrain isUp i)
    have both : (inbox.cons i).map Turn.input = [.input i] ++ inbox.map .input := rfl
    rw [turnsAndDrain_facing, turnsAndDrain_singleton] at first
    rw [both, turnsAndDrain_append, turnsAndDrain_facing c, turnsAndDrain_singleton]
    exact first.append rest

theorem takes_settle (c : Client) : c.Takes c.settle := by
  unfold settle
  split
  case isFalse => exact ⟨[], rfl, rfl⟩
  case isTrue isUp =>
    have inputs : c.Takes ((c.facing [] c.hasUser).turnsAndDrain (c.inbox.map .input)) :=
      takes_inputs isUp c.inbox c.hasUser
    rw [turnsAndDrain_facing] at inputs
    have hungUp : ∀ d : Client, (d.facing [] c.hasUser).Takes
        ((d.facing [] c.hasUser).turnsAndDrain (if c.hasUser then [] else [.hangUp])) := by
      intro d
      cases user : c.hasUser with
      | true => exact ⟨[], rfl, rfl⟩
      | false =>
        have noticed : (d.facing [] false).step .noticeHangUp =
            (d.facing [] false).turn .hangUp := by
          simp [step, facing]
        rw [if_neg Bool.false_ne_true, turnsAndDrain_singleton]
        exact takes_turnAndDrain rfl noticed
    have fired : ∀ d : Client, d.Takes (d.turnsAndDrain [.fire]) := by
      intro d
      rw [turnsAndDrain_singleton]
      exact takes_turnAndDrain (o := .fire) rfl rfl
    have all := (inputs.append (hungUp _)).append (fired _)
    show c.Takes ((c.facing [] c.hasUser).turnsAndDrain _)
    rw [turnsAndDrain_append, turnsAndDrain_append, turnsAndDrain_facing]
    exact all

/-- The order in which a script takes the turns is that of a schedule. -/
theorem run_scheduled (c : Client) (hs : List Happening) :
    ∃ os : List Occurrence, os.filterMap Occurrence.happening? = hs ∧ c.play os = c.run hs := by
  induction hs generalizing c with
  | nil => exact ⟨[], rfl, rfl⟩
  | cons h hs ih =>
    have applied : ∃ os, os.filterMap Occurrence.happening? = [] ∧
        c.play (.happens h :: os) = c.apply h := by
      cases h with
      | read f =>
        obtain ⟨os, own, drained⟩ := takes_drain (c.turn (.read f)).1
        exact ⟨os, own, by simp only [play_cons, step, drained]; rfl⟩
      | _ => exact ⟨[], rfl, by simp [play, step]⟩
    obtain ⟨os, own, first⟩ := applied
    obtain ⟨more, own', settled⟩ := takes_settle (c.apply h).1
    obtain ⟨rest, same, later⟩ := ih (c.happen h).1
    refine ⟨.happens h :: os ++ more ++ rest, ?_, ?_⟩
    · simp [Occurrence.happening?, own, own', same]
    · rw [play_append, play_append, first, settled]
      have reached : (c.apply h).1.settle.1 = (c.happen h).1 := rfl
      rw [reached, later]
      rfl

end Switchboard.Client
