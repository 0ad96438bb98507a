import Switchboard.Proofs.Client.Delivery
import Switchboard.Proofs.Client.Resizing

/-!
# Frames that say nothing

A binary frame, a ping, a pong and a text that is no report say nothing to a connection, which is
after them just as it was before (`turn_of_noise`). `noise_unnoticed`: however many of them come,
and wherever, a run is the same; of the frames only those that are the last of a socket end it.
-/

namespace Switchboard

open Json Wire

namespace Wire.Frame

variable {f : Frame}

/-- Whether a frame says nothing: it is no text, or it is one that is no report. -/
def isNoise : Frame → Bool
  | text s => (Report.decode s matches .error _)
  | binary _ | ping _ | pong _ => true
  | close _ | failure _ | finished => false

/-- Whether no frame follows: the socket was closed, has failed or is at its end. -/
def isLast : Frame → Bool
  | close _ | failure _ | finished => true
  | text _ | binary _ | ping _ | pong _ => false

theorem inbound_of_isNoise (noise : f.isNoise = true) : f.inbound = .skip := by
  cases f with
  | text s =>
    cases decoded : Report.decode s with
    | ok r => simp [isNoise, decoded] at noise
    | error e => simp [inbound, decoded]
  | binary bs | ping bs | pong bs => rfl
  | close reason | failure message | finished => cases noise

/-- A frame closes the connection exactly if it is the last one. -/
theorem isLast_iff : f.isLast = true ↔ ∃ fault, f.inbound = .closed fault := by
  cases f with
  | text s => cases decoded : Report.decode s <;> simp [isLast, inbound, decoded]
  | _ => simp [isLast, inbound]

end Wire.Frame

namespace Client

variable {c : Connection} {now : Nat} {t : Turn} {turns turns' : List (Nat × Turn)} {f : Frame}
  {m : Moment}

def Turn.isNoise : Turn → Bool
  | .read f => f.isNoise
  | _ => false

/-- The turns of a schedule but for those at which a frame that says nothing is read. -/
def informative (turns : List (Nat × Turn)) : List (Nat × Turn) := turns.filter (!·.2.isNoise)

theorem informative_of_noise (noise : t.isNoise = true) :
    informative ((now, t) :: turns) = informative turns :=
  List.filter_cons_of_neg (by simp [noise])

theorem informative_of_said (said : t.isNoise = false) :
    informative ((now, t) :: turns) = (now, t) :: informative turns :=
  List.filter_cons_of_pos (by simp [said])

namespace Connection

/-! ### A turn at which nothing is said -/

theorem turn_of_noise (noise : t.isNoise = true) : c.turn now t = { connection := c } := by
  cases t with
  | read f =>
    have skipped : f.inbound = .skip := Frame.inbound_of_isNoise noise
    simp only [turn, read, skipped]
  | _ => cases noise

theorem requests_of_noise (noise : m.turn.isNoise = true) : m.requests = [] := by
  obtain ⟨c, now, t⟩ := m
  cases t with
  | read f =>
    have skipped : f.inbound = .skip := Frame.inbound_of_isNoise noise
    simp [Moment.requests, Moment.operations, operations, Turn.operations, skipped,
      Effect.requests]
  | _ => cases noise

/-- A frame that is read makes the connection lost exactly if it is the last one. -/
theorem ending_read_iff (c : Connection) (now : Nat) (f : Frame) :
    f.isLast = true ↔ ∃ fault, (c.turn now (.read f)).ending = some (.lost fault) := by
  rw [c.turn_eq now rfl, Frame.isLast_iff]
  refine exists_congr fun fault => ?_
  simp only [Turn.ending?]
  cases f.inbound <;> simp

/-! ### Runs -/

theorem run_of_noise (noise : t.isNoise = true) (turns : List (Nat × Turn)) :
    c.run ((now, t) :: turns) = c.run turns := by
  have still : c.turn now t = { connection := c } := turn_of_noise noise
  rw [run_cons_of_none turns (by rw [still]), still]
  rfl

theorem history_of_noise (noise : t.isNoise = true) (turns : List (Nat × Turn)) :
    c.history ((now, t) :: turns) = ⟨c, now, t⟩ :: c.history turns := by
  have still : c.turn now t = { connection := c } := turn_of_noise noise
  rw [history_of_none turns (by rw [still]), still]

theorem run_informative (c : Connection) (turns : List (Nat × Turn)) :
    c.run (informative turns) = c.run turns := by
  induction turns generalizing c with
  | nil => rfl
  | cons x turns ih =>
    obtain ⟨now, t⟩ := x
    cases noise : t.isNoise with
    | true => rw [informative_of_noise noise, run_of_noise noise, ih]
    | false =>
      rw [informative_of_said noise]
      cases ending : (c.turn now t).ending with
      | some e => rw [run_cons_of_ending _ ending, run_cons_of_ending _ ending]
      | none => rw [run_cons_of_none _ ending, run_cons_of_none _ ending, ih]

/-- The turns that say something meet the same connections. -/
theorem history_informative (c : Connection) (turns : List (Nat × Turn)) :
    c.history (informative turns) = (c.history turns).filter (!·.turn.isNoise) := by
  induction turns generalizing c with
  | nil => rfl
  | cons x turns ih =>
    obtain ⟨now, t⟩ := x
    cases noise : t.isNoise with
    | true => simp [informative_of_noise noise, history_of_noise noise, ih, noise]
    | false =>
      rw [informative_of_said noise]
      cases ending : (c.turn now t).ending with
      | some e => simp [history_of_ending _ ending, noise]
      | none => simp [history_of_none _ ending, noise, ih]

theorem queued_informative (c : Connection) (turns : List (Nat × Turn)) :
    c.queued (informative turns) = c.queued turns := by
  rw [queued, history_informative, queued]
  induction c.history turns with
  | nil => rfl
  | cons m moments ih =>
    cases noise : m.turn.isNoise with
    | true => simpa [noise, requests_of_noise noise] using ih
    | false => simpa [noise] using ih

/-- Frames that say nothing are not noticed. Two schedules that differ at most in such frames, in
how many come and where, lead to the same connection with the same desk, the same requests in the
outbox and the same resizes waiting until the same deadline; the presenter is told the same, the
same is written, the same requests are queued on the way, and the connection ends in the same way;
and every other turn meets the same connection. A frame that is read makes the connection lost
exactly if it is the last one of the socket. -/
theorem noise_unnoticed (c : Connection)
    (alike : turns'.filter (!·.2.isNoise) = turns.filter (!·.2.isNoise)) :
    c.run turns' = c.run turns ∧
    c.queued turns' = c.queued turns ∧
    (c.history turns').filter (!·.turn.isNoise) = (c.history turns).filter (!·.turn.isNoise) ∧
    ∀ m ∈ c.history turns, ∀ f, m.turn = .read f →
      (f.isLast = true ↔ ∃ fault, m.outcome.ending = some (.lost fault)) ∧
      ∀ e, m.outcome.ending = some e → (c.run turns).ending = some e := by
  have alike : informative turns' = informative turns := alike
  refine ⟨?_, ?_, ?_, ?_⟩
  · rw [← run_informative, alike, run_informative]
  · rw [← queued_informative, alike, queued_informative]
  · rw [← history_informative, alike, history_informative]
  · rintro ⟨d, now, t⟩ mem f rfl
    exact ⟨d.ending_read_iff now f, fun e ended => ending_run_of_mem mem ended⟩

/-- While resizes wait, frames come that say nothing. -/
theorem noise_unnoticed_while_resizing :
    let c := (start {} 250).connection
    let added := [(0, said "host_connected" [("host_id", natural 1)]),
      (0, said "terminal_added" [("host_id", natural 1), ("terminal_id", natural 5)])]
    let resizing : List (Nat × Turn) := [(0, .input (.intent (.resize ⟨5⟩ ⟨80, 24⟩)))]
    let sending : List (Nat × Turn) :=
      [(250, .fire), (251, .write true), (252, .read (.close none)), (253, .write true)]
    let noise : List (Nat × Turn) :=
      [(10, said "bell" []), (20, .read (.ping [])), (249, .read (.text "hello")),
        (249, .read (.binary [255]))]
    let noisy := added ++ resizing ++ noise ++ sending
    let silent := added ++ resizing ++ sending
    c.run noisy = c.run silent ∧ c.queued noisy = c.queued silent ∧
      ∃ fault, (c.run silent).ending = some (.lost fault) := by
  intro c added resizing sending noise noisy silent
  have alike : noisy.filter (!·.2.isNoise) = silent.filter (!·.2.isNoise) := by decide +kernel
  have closes : ((c.history silent).getLast?.any fun m => m.turn = .read (.close none)) = true := by
    decide +kernel
  obtain ⟨m, last, closing⟩ := (Option.any_eq_true _ _).mp closes
  obtain ⟨same, queued, -, reads⟩ := noise_unnoticed c alike
  obtain ⟨lost, ends⟩ := reads m (List.mem_of_getLast? last) _ (of_decide_eq_true closing)
  obtain ⟨fault, ending⟩ := lost.mp rfl
  exact ⟨same, queued, fault, ends _ ending⟩

end Connection

end Client

end Switchboard
