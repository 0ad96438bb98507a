import Mathlib.Algebra.Group.Nat.Defs
import Switchboard.Proofs.Client.Schedule

/-!
# Reconnecting

How long a client waits before it tries again, and when it gives up. `Stands` says how a client
stands after the milestones of its run; every step keeps it (`Stands.step`). `reconnects_accounted`
reads off it what each result of a run means, on every schedule and so in every script
(`run_scheduled`).
-/

namespace Switchboard.Client

variable {c c' : Client} {o : Occurrence} {m : Milestone} {ms : List (Nat × Milestone)}
  {out : List Output}

/-! ### The wait -/

theorem backoff_eq (attempt : Nat) : backoff attempt = min (500 * 2 ^ attempt) 10000 := by
  have wait : backoff attempt = min (500 * 2 ^ min attempt 20) 10000 := rfl
  rw [wait]
  rcases Nat.le_total attempt 20 with few | many
  · rw [Nat.min_eq_left few]
  · -- Both powers are beyond the longest wait.
    have large : 2 ^ 20 ≤ 2 ^ attempt := Nat.pow_le_pow_right (by omega) many
    rw [Nat.min_eq_right many]
    omega

theorem backoff_pos (attempt : Nat) : 0 < backoff attempt := by
  have positive : 0 < 2 ^ attempt := Nat.two_pow_pos attempt
  rw [backoff_eq]
  omega

/-- The longest wait that is computed fits 64 bits. -/
theorem backoff_fits (attempt : Nat) : firstWait * 2 ^ min attempt 20 < 2 ^ 64 := by
  have small : 2 ^ min attempt 20 ≤ 2 ^ 20 :=
    Nat.pow_le_pow_right (by omega) (Nat.min_le_right _ _)
  unfold firstWait
  omega

/-- What a phase has come to once the clock says `now`. -/
def Phase.at (now : Nat) : Phase → Phase
  | .waiting wake => if wake ≤ now then .connecting else .waiting wake
  | p => p

theorem advance_eq (c : Client) (ms : Nat) :
    c.advance ms = { c with now := c.now + ms, phase := c.phase.at (c.now + ms) } := by
  obtain ⟨settings, phase, attempt, wasConnected, inbox, hasUser, now⟩ := c
  cases phase <;> rfl

theorem Phase.at_at {now later : Nat} (wake : Nat) (le : now ≤ later) :
    (Phase.at now (.waiting wake)).at later = Phase.at later (.waiting wake) := by
  simp only [Phase.at]
  by_cases due : wake ≤ now
  · rw [if_pos due, if_pos (Nat.le_trans due le)]
  · rw [if_neg due]

/-! ### Milestones -/

/-- The milestones of a run, each with its time. -/
def milestones (c : Client) : List Occurrence → List (Nat × Milestone)
  | [] => []
  | o :: os => ((c.milestone? o).map (c.now, ·)).toList ++ (c.step o).1.milestones os

/-- How many attempts to connect have failed since the connection was lost, after another
milestone. -/
def failuresAfter (failures : Option Nat) : Milestone → Option Nat
  | .accepted | .ended .cancelled | .ended .hungUp => none
  | .refused _ => failures.map (· + 1)
  | .ended (.lost _) => some 0

/-- How many attempts to connect have failed since the connection was lost. There is no such number
while there is a connection, before the first one, and after the end. -/
def failures? (ms : List (Nat × Milestone)) : Option Nat :=
  ms.foldl (fun failures m => failuresAfter failures m.2) none

@[simp]
theorem failures?_append (ms : List (Nat × Milestone)) (t : Nat) (m : Milestone) :
    failures? (ms ++ [(t, m)]) = failuresAfter (failures? ms) m := by
  simp [failures?]

/-- How a client stands after some milestones, when this much has been put out. -/
inductive Stands : List (Nat × Milestone) → List Output → Client → Prop
  | fresh {c : Client} (connecting : c.phase = .connecting) (first : c.wasConnected = false)
      (attempt : c.attempt = 0) : Stands [] [] c
  | up {ms : List (Nat × Milestone)} {out : List Output} {c : Client} {k : Connection} {t : Nat}
      (up : c.phase = .connected k) (was : c.wasConnected = true) (attempt : c.attempt = 0) :
      Stands (ms ++ [(t, .accepted)]) out c
  | down {ms : List (Nat × Milestone)} {out : List Output} {c : Client} {t n : Nat} {m : Milestone}
      (failures : failures? (ms ++ [(t, m)]) = some n) (left : n < c.settings.maxReconnects)
      (attempt : c.attempt = n + 1) (was : c.wasConnected = true)
      (phase : c.phase = Phase.at c.now (.waiting (t + backoff (n + 1)))) :
      Stands (ms ++ [(t, m)]) out c
  | unreached {c : Client} {t : Nat} {cause : String}
      (finished : c.phase = .over (.error (.neverConnected cause))) (attempt : c.attempt = 0) :
      Stands [(t, .refused cause)] [] c
  | lost {ms : List (Nat × Milestone)} {out : List Output} {c : Client} {t : Nat}
      {fault : Wire.Fault} (finished : c.phase = .over (.error (.lost fault)))
      (never : c.settings.maxReconnects = 0) (attempt : c.attempt = 0) :
      Stands (ms ++ [(t, .ended (.lost fault))]) out c
  | exhausted {ms : List (Nat × Milestone)} {out : List Output} {c : Client} {t : Nat}
      {cause : String} (finished : c.phase = .over (.error (.exhausted cause)))
      (failures : failures? (ms ++ [(t, .refused cause)]) = some c.settings.maxReconnects)
      (attempt : c.attempt = c.settings.maxReconnects) :
      Stands (ms ++ [(t, .refused cause)]) out c
  | stopped {ms : List (Nat × Milestone)} {out : List Output} {c : Client} {t : Nat} {e : Ending}
      (finished : c.phase = .over (.ok ())) (wanted : e = .cancelled ∨ e = .hungUp)
      (attempt : c.attempt ≤ c.settings.maxReconnects) :
      Stands (ms ++ [(t, .ended e)]) out c

namespace Stands

theorem attempt_le (s : Stands ms out c) : c.attempt ≤ c.settings.maxReconnects := by
  cases s with
  | fresh _ _ attempt | up _ _ attempt | unreached _ attempt | lost _ _ attempt => omega
  | down _ left attempt => omega
  | exhausted _ _ attempt => omega
  | stopped _ _ attempt => exact attempt

theorem of_connected {k : Connection} (s : Stands ms out c) (up : c.phase = .connected k) :
    c.wasConnected = true ∧ c.attempt = 0 ∧ ∃ earlier t, ms = earlier ++ [(t, .accepted)] := by
  cases s with
  | @up earlier _ _ _ t _ was attempt => exact ⟨was, attempt, earlier, t, rfl⟩
  | down _ _ _ _ phase =>
    simp only [phase, Phase.at] at up
    split at up <;> cases up
  | fresh phase | unreached phase | lost phase | exhausted phase | stopped phase =>
    simp [phase] at up

theorem phase_at (s : Stands ms out c) : c.phase.at c.now = c.phase := by
  cases s with
  | down _ _ _ _ phase => rw [phase, Phase.at_at _ (Nat.le_refl _)]
  | fresh phase | up phase | unreached phase | lost phase | exhausted phase | stopped phase =>
    rw [phase]
    rfl

/-- As long as there is no milestone, only the clock matters. -/
theorem later (s : Stands ms out c) (settings : c'.settings = c.settings)
    (attempt : c'.attempt = c.attempt) (was : c'.wasConnected = c.wasConnected)
    (now : c.now ≤ c'.now) (phase : c'.phase = c.phase.at c'.now) : Stands ms out c' := by
  have keeps {p : Phase} (same : c.phase = p) (fixed : p.at c'.now = p) : c'.phase = p := by
    rw [phase, same, fixed]
  cases s with
  | fresh connecting first none =>
    exact .fresh (keeps connecting rfl) (was.trans first) (attempt.trans none)
  | up up connected none =>
    exact .up (keeps up rfl) (was.trans connected) (attempt.trans none)
  | down failures left count connected waiting =>
    refine .down failures (by rwa [settings]) (attempt.trans count) (was.trans connected) ?_
    rw [phase, waiting, Phase.at_at _ now]
  | unreached finished none => exact .unreached (keeps finished rfl) (attempt.trans none)
  | lost finished never none =>
    exact .lost (keeps finished rfl) (by rwa [settings]) (attempt.trans none)
  | exhausted finished failures count =>
    exact .exhausted (keeps finished rfl) (by rwa [settings]) (by rwa [attempt, settings])
  | stopped finished wanted count =>
    exact .stopped (keeps finished rfl) wanted (by rwa [attempt, settings])

theorem retry {n : Nat} (failures : failures? (ms ++ [(c.now, m)]) = some n)
    (left : n < c.settings.maxReconnects) (attempt : c.attempt = n) (was : c.wasConnected = true) :
    Stands (ms ++ [(c.now, m)]) out c.retry := by
  have pos := backoff_pos (n + 1)
  refine .down failures left (congrArg (· + 1) attempt) was ?_
  simp only [Client.retry, Phase.at, attempt]
  rw [if_neg (by omega)]

theorem refused (s : Stands ms out c) (connecting : c.phase = .connecting) (cause : String) :
    Stands (ms ++ [(c.now, .refused cause)]) out (c.refused cause) := by
  have isConnecting : c.isConnecting = true := by simp [isConnecting, connecting]
  cases s with
  | fresh _ first attempt =>
    have result : c.refused cause = c.stop (.error (.neverConnected cause)) := by
      simp [Client.refused, isConnecting, first]
    rw [result]
    exact .unreached rfl attempt
  | @down earlier _ _ t n m failures left attempt was phase =>
    have more : failures? (earlier ++ [(t, m)] ++ [(c.now, .refused cause)]) = some (n + 1) := by
      rw [failures?_append, failures]
      rfl
    by_cases spent : c.settings.maxReconnects ≤ c.attempt
    · have result : c.refused cause = c.stop (.error (.exhausted cause)) := by
        simp [Client.refused, isConnecting, was, spent]
      have all : n + 1 = c.settings.maxReconnects := by omega
      rw [result]
      exact .exhausted rfl (by rw [more, all]; rfl) (attempt.trans all)
    · have result : c.refused cause = c.retry := by
        simp [Client.refused, isConnecting, was, spent]
      rw [result]
      exact .retry more (by omega) attempt was
  | up phase | unreached phase | lost phase | exhausted phase | stopped phase =>
    simp [phase] at connecting

theorem ended {k : Connection} (s : Stands ms out c) (up : c.phase = .connected k) (e : Ending)
    (out' : List Output) (around : Surroundings) (still : around.now = c.now) :
    Stands (ms ++ [(c.now, .ended e)]) (out ++ out') ((c.amid around).ended e) := by
  obtain ⟨was, attempt, _⟩ := s.of_connected up
  cases e with
  | cancelled => exact .stopped rfl (Or.inl rfl) s.attempt_le
  | hungUp => exact .stopped rfl (Or.inr rfl) s.attempt_le
  | lost fault =>
    by_cases never : c.settings.maxReconnects = 0
    · have result : (c.amid around).ended (.lost fault) =
          (c.amid around).stop (.error (.lost fault)) := if_pos never
      rw [result]
      exact .lost rfl never attempt
    · have result : (c.amid around).ended (.lost fault) = (c.amid around).retry := if_neg never
      have first : failures? (ms ++ [(around.now, .ended (.lost fault))]) = some 0 := by
        rw [failures?_append]
        rfl
      rw [result, ← still]
      exact .retry (c := c.amid around) first (Nat.pos_of_ne_zero never) attempt was

theorem step (s : Stands ms out c) (o : Occurrence) :
    Stands (ms ++ ((c.milestone? o).map (c.now, ·)).toList) (out ++ (c.step o).2) (c.step o).1 := by
  have moves := c.step_moves o
  generalize (c.step o).1 = c', (c.step o).2 = out', c.milestone? o = m at moves ⊢
  have quiet {c' : Client} {out' : List Output} (stands : Stands ms (out ++ out') c') :
      Stands (ms ++ ((none : Option Milestone).map (c.now, ·)).toList) (out ++ out') c' := by
    simpa using stands
  cases moves with
  | accepted connecting => exact .up rfl rfl rfl
  | refused connecting cause =>
    rw [List.append_nil]
    exact s.refused connecting cause
  | gaveUp apart running => exact .stopped rfl (Or.inl rfl) s.attempt_le
  | waited apart passed =>
    refine quiet ?_
    rw [List.append_nil, advance_eq]
    exact s.later rfl rfl rfl (Nat.le_add_right _ _) rfl
  | kept apart around still =>
    refine quiet ?_
    rw [List.append_nil]
    refine s.later rfl rfl rfl (Nat.le_of_eq still.symm) ?_
    exact (s.phase_at.symm.trans (congrArg (c.phase.at ·) still.symm))
  | stayed up noTurn =>
    refine quiet ?_
    obtain ⟨was, attempt, earlier, t, rfl⟩ := s.of_connected up
    exact .up up was attempt
  | turned up taken goesOn =>
    refine quiet ?_
    obtain ⟨was, attempt, earlier, t, rfl⟩ := s.of_connected up
    exact .up rfl was attempt
  | ended up taken ending => exact s.ended up _ _ _ (Surroundings.now_after taken)

theorem play (s : Stands ms out c) (os : List Occurrence) :
    Stands (ms ++ c.milestones os) (out ++ (c.play os).2) (c.play os).1 := by
  induction os generalizing c ms out with
  | nil => simpa [milestones, Client.play] using s
  | cons o os ih => simpa [milestones, play_cons] using ih (s.step o)

end Stands

/-! ### Results -/

/-- The result of a run, as its milestones decide it. -/
def verdict? (maxReconnects : Nat) (ms : List (Nat × Milestone)) :
    Option (Except RunError Unit) :=
  match ms.getLast?.map Prod.snd, failures? ms with
  | some (.refused cause), none => some (.error (.neverConnected cause))
  | some (.refused cause), some n =>
    if n = maxReconnects then some (.error (.exhausted cause)) else none
  | some (.ended (.lost fault)), _ =>
    if maxReconnects = 0 then some (.error (.lost fault)) else none
  | some (.ended _), _ => some (.ok ())
  | some .accepted, _ | none, _ => none

theorem append_ne {text text' rest rest' : String} {x y : Char}
    (head : text.toList.head? = some x) (head' : text'.toList.head? = some y) (ne : x ≠ y) :
    text ++ rest ≠ text' ++ rest' := by
  intro same
  have heads := congrArg (·.toList.head?) same
  simp only [String.toList_append, List.head?_append, head, head', Option.some_or] at heads
  exact ne (Option.some.inj heads)

/-- No other failure reads like that of a client that has given up. -/
theorem RunError.message_eq_iff (e : RunError) (cause : String) :
    e.message = "max reconnects reached: " ++ cause ↔ e = .exhausted cause := by
  have head : "max reconnects reached: ".toList.head? = some 'm' := rfl
  cases e with
  | neverConnected other =>
    have head' : "connection failed: ".toList.head? = some 'c' := rfl
    exact iff_of_false (append_ne head' head (by decide)) nofun
  | exhausted other => exact (String.append_right_inj _).trans (by simp)
  | lost fault =>
    have head' : "disconnected: ".toList.head? = some 'd' := rfl
    exact iff_of_false (append_ne head' head (by decide)) nofun

/-- When a run has failed, and of what. -/
theorem verdict?_error_iff (maxReconnects : Nat) (ms : List (Nat × Milestone)) :
    (∀ cause, verdict? maxReconnects ms = some (.error (.neverConnected cause)) ↔
      (∃ t, ms.getLast? = some (t, .refused cause)) ∧ failures? ms = none) ∧
    (∀ cause, verdict? maxReconnects ms = some (.error (.exhausted cause)) ↔
      (∃ t, ms.getLast? = some (t, .refused cause)) ∧ failures? ms = some maxReconnects) ∧
    ∀ fault, verdict? maxReconnects ms = some (.error (.lost fault)) ↔
      maxReconnects = 0 ∧ ∃ t, ms.getLast? = some (t, .ended (.lost fault)) := by
  unfold verdict?
  rcases ms.getLast? with _ | ⟨t, _ | cause | e⟩
  · simp
  · simp
  · rcases failures? ms with _ | n
    · simp
    · by_cases all : n = maxReconnects <;> simp [all]
  · cases e <;> simp

namespace Stands

theorem result?_eq (s : Stands ms out c) :
    c.result? = verdict? c.settings.maxReconnects ms := by
  cases s with
  | fresh phase => simp [result?, phase, verdict?]
  | up phase => simp [result?, phase, verdict?]
  | @down earlier _ _ t n m failures left _ _ phase =>
    have running : c.result? = none := by
      rw [result?, phase, Phase.at]
      by_cases due : t + backoff (n + 1) ≤ c.now <;> simp [due]
    have last : (earlier ++ [(t, m)]).getLast?.map Prod.snd = some m := by simp
    rw [running, verdict?, last, failures]
    rw [failures?_append] at failures
    cases m with
    | accepted => cases failures
    | refused cause => exact (if_neg (Nat.ne_of_lt left)).symm
    | ended e =>
      cases e with
      | lost fault => exact (if_neg (by omega)).symm
      | cancelled | hungUp => cases failures
  | unreached finished => simp [result?, finished, verdict?, failures?, failuresAfter]
  | lost finished never => simp [result?, finished, verdict?, never]
  | exhausted finished failures =>
    rw [verdict?, failures]
    simp [result?, finished]
  | stopped finished wanted => rcases wanted with rfl | rfl <;> simp [result?, finished, verdict?]

/-- A failure that does not follow a loss is the first milestone, and nothing has been put out. -/
theorem first_of_refused {t : Nat} {cause : String} (s : Stands ms out c)
    (last : ms.getLast? = some (t, .refused cause)) (none : failures? ms = none) :
    ms = [(t, .refused cause)] ∧ out = [] := by
  cases s with
  | unreached => exact ⟨by simpa using last, rfl⟩
  | fresh => cases last
  | down failures | exhausted _ failures => simp [failures] at none
  | up | lost | stopped => simp at last

/-- While fewer attempts have failed than settings allow, the client waits for the next one. -/
theorem waits {t n : Nat} (s : Stands ms out c) (last : ms.getLast? = some (t, m))
    (failures : failures? ms = some n) (left : n < c.settings.maxReconnects) :
    c.phase = Phase.at c.now (.waiting (t + backoff (n + 1))) := by
  cases s with
  | down failures' _ _ _ phase =>
    obtain rfl := Option.some.inj (failures.symm.trans failures')
    obtain ⟨rfl, rfl⟩ : _ = t ∧ _ = m := by simpa using last
    exact phase
  | fresh => cases last
  | up => simp [failuresAfter] at failures
  | unreached => cases failures
  | lost _ never => omega
  | exhausted _ all =>
    have same := Option.some.inj (failures.symm.trans all)
    omega
  | stopped _ wanted => rcases wanted with rfl | rfl <;> simp [failuresAfter] at failures

theorem failures_le {n : Nat} (s : Stands ms out c) (failures : failures? ms = some n) :
    n ≤ c.settings.maxReconnects := by
  cases s with
  | down failures' left =>
    obtain rfl := Option.some.inj (failures.symm.trans failures')
    exact Nat.le_of_lt left
  | exhausted _ all => exact Nat.le_of_eq (Option.some.inj (failures.symm.trans all))
  | fresh => cases failures
  | up => simp [failuresAfter] at failures
  | unreached => cases failures
  | lost =>
    rw [failures?_append] at failures
    obtain rfl := Option.some.inj failures
    exact Nat.zero_le _
  | stopped _ wanted => rcases wanted with rfl | rfl <;> simp [failuresAfter] at failures

end Stands

/-- What the milestones of a run decide. If the first attempt fails, the run has failed and nothing
was put out. Where no attempt may follow a loss, a loss is a failure. Otherwise a client that has
failed to connect `n` times since the loss waits before it tries again, twice as long with each
attempt up to ten seconds, and gives up when as many attempts as settings allow have failed, neither
before nor after. Neither the count nor the wait overflows. -/
theorem reconnects_accounted (settings : Settings) (os : List Occurrence) :
    let c : Client := { settings }
    let ms := c.milestones os
    let reached := (c.play os).1
    (∀ cause, reached.result? = some (.error (.neverConnected cause)) ↔
      ∃ t, ms = [(t, .refused cause)]) ∧
    (∀ cause t, ms = [(t, .refused cause)] → (c.play os).2 = []) ∧
    (∀ fault, reached.result? = some (.error (.lost fault)) ↔
      settings.maxReconnects = 0 ∧ ∃ t, ms.getLast? = some (t, .ended (.lost fault))) ∧
    (∀ cause, reached.result? = some (.error (.exhausted cause)) ↔
      (∃ t, ms.getLast? = some (t, .refused cause)) ∧
        failures? ms = some settings.maxReconnects) ∧
    (∀ (e : RunError) cause, e.message = "max reconnects reached: " ++ cause ↔
      e = .exhausted cause) ∧
    (∀ t m n, ms.getLast? = some (t, m) → failures? ms = some n → n < settings.maxReconnects →
      let wake := t + min (500 * 2 ^ (n + 1)) 10000
      reached.phase = if wake ≤ reached.now then .connecting else .waiting wake) ∧
    (∀ n, failures? ms = some n → n ≤ settings.maxReconnects) ∧
    reached.attempt ≤ settings.maxReconnects ∧
    ∀ attempt, backoff attempt = min (500 * 2 ^ attempt) 10000 ∧
      firstWait * 2 ^ min attempt 20 < 2 ^ 64 := by
  intro c ms reached
  have start : Stands [] [] c := .fresh rfl rfl rfl
  have stands : Stands ms (c.play os).2 reached := start.play os
  have same : reached.settings = settings := c.settings_play os
  have result : reached.result? = verdict? settings.maxReconnects ms := same ▸ stands.result?_eq
  obtain ⟨neverConnected, exhausted, lost⟩ := verdict?_error_iff settings.maxReconnects ms
  have first : ∀ t cause, ms.getLast? = some (t, .refused cause) → failures? ms = none →
      ms = [(t, .refused cause)] ∧ (c.play os).2 = [] :=
    fun _ _ => stands.first_of_refused
  rw [result]
  refine ⟨fun cause => ?_, fun cause t only => ?_, lost, exhausted,
    RunError.message_eq_iff, fun t m n last failures left => ?_,
    fun n failures => same ▸ stands.failures_le failures, same ▸ stands.attempt_le,
    fun attempt => ⟨backoff_eq attempt, backoff_fits attempt⟩⟩
  · rw [neverConnected]
    constructor
    · rintro ⟨⟨t, last⟩, none⟩
      exact ⟨t, (first t cause last none).1⟩
    · rintro ⟨t, only⟩
      rw [only]
      exact ⟨⟨t, rfl⟩, rfl⟩
  · exact (first t cause (by rw [only]; rfl) (by rw [only]; rfl)).2
  · rw [stands.waits last failures (same ▸ left), backoff_eq]
    rfl

end Switchboard.Client
