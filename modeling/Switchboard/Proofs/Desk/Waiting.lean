import Switchboard.Proofs.Desk.History
import Switchboard.Proofs.Roster.Waiting

/-!
# Requests for terminals and their answers

While a host is connected, every terminal that is asked for on it is answered by one that is bound
there, and by no other one.
-/

namespace Switchboard

open Wire

variable {host : HostId} {t : TerminalId} {slot : SlotId} {r r' : Roster}

def Roster.terminalsOf (r : Roster) (id : HostId) : List TerminalId :=
  (r.host? id).elim [] Host.terminals

theorem Roster.mem_terminalsOf : t ∈ r.terminalsOf host ↔ r.Holds host t := by
  cases found : r.host? host <;> simp [terminalsOf, Holds, found]

/-- What may come of the wait of a host when no terminal is bound on it: it stays, or it begins with
the one request that is sent. -/
inductive Waiting (host : HostId) (r r' : Roster) (sent : List Request) : Prop where
  | kept (same : r'.pending? host = r.pending? host) (silent : .openTerminal host ∉ sent)
  | asked (slot : SlotId) (quiet : r.pending? host = none) (waits : r'.pending? host = some slot)
      (once : sent.count (.openTerminal host) = 1)

theorem Waiting.append {r₁ : Roster} {sent more : List Request} (w : Waiting host r r₁ sent)
    (w' : Waiting host r₁ r' more) : Waiting host r r' (sent ++ more) := by
  cases w with
  | kept same silent =>
    cases w' with
    | kept same' silent' => exact .kept (same'.trans same) (by simp [silent, silent'])
    | asked slot quiet waits once =>
      refine .asked slot (same.symm.trans quiet) waits ?_
      rw [List.count_append, List.count_eq_zero_of_not_mem silent, once]
  | asked slot quiet waits once =>
    cases w' with
    | kept same' silent' =>
      refine .asked slot quiet (same'.trans waits) ?_
      rw [List.count_append, List.count_eq_zero_of_not_mem silent', once]
    | asked _ quiet' => simp [waits] at quiet'

namespace Desk

variable {d d' : Desk} {op : Operation} {acts : List Act} {turns : List Turn}

/-- The terminal that an operation binds on a host. -/
def arrival? (d : Desk) (host : HostId) (op : Operation) : Option TerminalId :=
  ((handle op d).1.roster.terminalsOf host).find? (· ∉ d.roster.terminalsOf host)

/-- Whether an operation binds a terminal on a host that waits for one. -/
def answers (d : Desk) (host : HostId) (op : Operation) : Bool :=
  (d.arrival? host op).isSome && (d.roster.pending? host).isSome

/-- Over a run a host is not disconnected and no terminal is bound on it. -/
def Undisturbed (d : Desk) (host : HostId) (turns : List Turn) : Prop :=
  ∀ x ∈ d.done turns,
    x.2 ≠ .report (.hostDisconnected host) ∧ x.1.arrival? host x.2 = none

theorem arrival?_eq_none_iff : d.arrival? host op = none ↔
    ∀ t, (handle op d).1.roster.Holds host t → d.roster.Holds host t := by
  simp [arrival?, Roster.mem_terminalsOf]

/-! ### The wait of a host over a move -/

theorem Coherent.waiting (c : d.Coherent) (m : Move op d d' acts)
    (stays : op ≠ .report (.hostDisconnected host))
    (other : ∀ t, op ≠ .report (.terminalAdded host t)) :
    Waiting host d.roster d'.roster (Act.requests acts) := by
  have wf := c.wellFormed
  cases m with
  | @hostConnected _ _ info _ outcome grown =>
    obtain rfl := congrArg Prod.snd outcome
    subst grown
    exact .kept (d.roster.pending?_addHost info host) (by simp)
  | @hostDisconnected _ _ id removed _ outcome left =>
    have ne : host ≠ id := fun same => stays (same ▸ rfl)
    obtain rfl := congrArg Prod.snd outcome
    rw [foldl_forgotten]
    subst left
    exact .kept (d.roster.pending?_removeHost ne) (by simp)
  | terminalRefused => exact .kept rfl (by simp)
  | @terminalAdded _ _ id u _ _ selected _ fresh outcome grown =>
    have ne : host ≠ id := fun same => other u (same ▸ rfl)
    have kept := Roster.pending?_congr ((Roster.gained_of_attach wf outcome).others host ne)
    subst grown
    cases selected <;> exact .kept kept (by simp)
  | terminalOutput => exact .kept rfl (by split <;> simp)
  | @terminalClosed _ _ _ origin id slot closed _ why outcome left =>
    obtain rfl := congrArg Prod.snd outcome
    subst left
    refine .kept (Roster.pending?_closeSlot wf id slot host) ?_
    cases origin <;> simp
  | @directoryListing _ u path files sessions listed =>
    exact .kept rfl (by cases sessions.get? u <;> simp)
  | @hostSelected _ _ id _ outcome moved =>
    obtain rfl := congrArg Prod.snd outcome
    subst moved
    exact .kept (d.roster.pending?_selectHost id host) (by simp)
  | @terminalRequested _ _ id slot _ outcome asked =>
    obtain ⟨quiet, waits, others⟩ := Roster.pending?_request wf outcome
    subst asked
    by_cases same : host = id
    · subst same
      exact .asked slot quiet waits (by simp)
    · exact .kept (others host same) (by simp [same])
  | @slotSelected _ _ id slot _ _ outcome moved =>
    obtain rfl := congrArg Prod.snd outcome
    subst moved
    exact .kept (Roster.pending?_selectSlot wf id slot host) (by simp)
  | @slotToggled _ _ id slot _ face _ outcome flipped =>
    obtain rfl := congrArg Prod.snd outcome
    subst flipped
    refine .kept (Roster.pending?_selectSlot wf id slot host) ?_
    split <;> simp [notMem_listingActs]
  | _ => exact .kept rfl (by simp)

/-! ### The wait of a host over an operation -/

theorem arrival?_eq_none (c : d.Coherent) (other : ∀ t, op ≠ .report (.terminalAdded host t)) :
    d.arrival? host op = none :=
  arrival?_eq_none_iff.mpr fun t held => holds_of_handle c (other t) held

theorem handle_waiting (c : d.Coherent) (stays : op ≠ .report (.hostDisconnected host))
    (other : ∀ t, op ≠ .report (.terminalAdded host t)) :
    Waiting host d.roster (handle op d).1.roster (Effect.requests (handle op d).2) := by
  obtain ⟨d₁, acts, d₂, more, m, asks, e⟩ := handle_moves op d
  have first := c.waiting m (fun same => stays (report_of_meaning same))
    fun t same => other t (report_of_meaning same)
  have roster : (handle op d).1.roster = d₂.roster := by rw [e.eq]
  rw [e.requests, Act.requests_append, roster]
  cases asks with
  | nothing => exact first.append (.kept rfl (by simp))
  | terminal m' => exact first.append ((c.move m).waiting m' (by simp) (by simp))

/-- A terminal is bound by an addition that the roster takes in. -/
structure Binds (d : Desk) (host : HostId) (op : Operation) (t : TerminalId) : Prop where
  outcome : ∃ slot requested selected, d.roster.attach host t =
    (.attached slot requested selected, (handle op d).1.roster)
  silent : Effect.requests (handle op d).2 = []

theorem arrival?_of_binds {slot : SlotId} {requested selected : Bool} (c : d.Coherent)
    (unlive : d.sessions.contains t = false)
    (outcome : d.roster.attach host t =
      (.attached slot requested selected, (handle op d).1.roster)) :
    d.arrival? host op = some t := by
  have held := fun u => Roster.holds_attach (i := host) (u := u) c.wellFormed outcome
  have fresh := c.not_holds unlive host
  cases arrived : d.arrival? host op with
  | none => exact absurd (arrival?_eq_none_iff.mp arrived t ((held t).mpr (by simp))) fresh
  | some u =>
    have new := (held u).mp (Roster.mem_terminalsOf.mp (List.mem_of_find?_eq_some arrived))
    have unheld := List.find?_some arrived
    simp only [Roster.mem_terminalsOf, decide_not, Bool.not_eq_true', decide_eq_false_iff_not]
      at unheld
    rcases new with old | ⟨_, same⟩
    · exact absurd old unheld
    · rw [same]

theorem addition_cases (c : d.Coherent) (host : HostId) (t : TerminalId) :
    let op : Operation := .report (.terminalAdded host t)
    Waiting host d.roster (handle op d).1.roster (Effect.requests (handle op d).2) ∧
        d.arrival? host op = none ∨
      d.Binds host op t ∧ d.arrival? host op = some t := by
  intro op
  have still : ∀ effects, handle op d = (d, effects) →
      .openTerminal host ∉ Effect.requests effects →
      Waiting host d.roster (handle op d).1.roster (Effect.requests (handle op d).2) ∧
        d.arrival? host op = none := by
    intro effects same silent
    rw [arrival?_eq_none_iff, same]
    exact ⟨.kept rfl silent, fun _ held => held⟩
  have shape : handle op d = terminalAdded host t d := rfl
  cases unlive : d.sessions.contains t with
  | true =>
    exact Or.inl (still [] (by simp [shape, terminalAdded, unlive]) (by simp [Effect.requests]))
  | false =>
    rcases outcome : d.roster.attach host t with ⟨added, roster⟩
    cases added with
    | unknownHost | duplicate =>
      exact Or.inl (still [] (by simp [shape, terminalAdded, unlive, outcome])
        (by simp [Effect.requests]))
    | atCapacity =>
      exact Or.inl (still _ (enacts_terminalRefused unlive outcome).eq
        (by simp [Bus.relayAll, Bus.relay, Effect.requests]))
    | attached slot requested selected =>
      have e := enacts_terminalAdded unlive outcome rfl
      have grown : (handle op d).1.roster = roster := by
        rw [shape, e.eq]
        cases selected <;> rfl
      have silent : Effect.requests (handle op d).2 = [] := by
        rw [shape, e.requests]
        cases selected <;> simp
      rw [← grown] at outcome
      exact Or.inr ⟨⟨⟨slot, requested, selected, outcome⟩, silent⟩,
        arrival?_of_binds c unlive outcome⟩

/-- Short of a disconnection of the host, an operation binds a terminal there, or the wait of the
host stays or begins. -/
theorem waiting_or_binds (c : d.Coherent) (stays : op ≠ .report (.hostDisconnected host)) :
    Waiting host d.roster (handle op d).1.roster (Effect.requests (handle op d).2) ∧
        d.arrival? host op = none ∨
      ∃ t, d.Binds host op t ∧ d.arrival? host op = some t := by
  by_cases addition : ∃ t, op = .report (.terminalAdded host t)
  · obtain ⟨t, rfl⟩ := addition
    exact (addition_cases c host t).imp_right fun binds => ⟨t, binds⟩
  · have other : ∀ t, op ≠ .report (.terminalAdded host t) := fun t same => addition ⟨t, same⟩
    exact Or.inl ⟨handle_waiting c stays other, arrival?_eq_none c other⟩

theorem binds_of_arrival (c : d.Coherent) (arrived : d.arrival? host op = some t) :
    d.Binds host op t := by
  by_cases addition : ∃ t, op = .report (.terminalAdded host t)
  · obtain ⟨u, rfl⟩ := addition
    rcases addition_cases c host u with ⟨_, nothing⟩ | ⟨binds, arrived'⟩
    · rw [arrived] at nothing
      cases nothing
    · obtain rfl := Option.some.inj (arrived'.symm.trans arrived)
      exact binds
  · rw [arrival?_eq_none c fun t same => addition ⟨t, same⟩] at arrived
    cases arrived

/-- A disconnection asks for no terminal. -/
theorem openTerminal_notMem_hostDisconnected (d : Desk) (id host : HostId) :
    .openTerminal host ∉ Effect.requests (handle (.report (.hostDisconnected id)) d).2 := by
  show .openTerminal host ∉ Effect.requests (hostDisconnected id d).2
  match outcome : d.roster.removeHost id with
  | (none, _) => simp [hostDisconnected, outcome, Effect.requests]
  | (some removed, _) =>
    rw [(enacts_hostDisconnected outcome rfl).requests]
    simp

/-! ### The terminal that is bound -/

theorem Binds.answer (b : d.Binds host op t) (c : d.Coherent)
    (pending : d.roster.pending? host = some slot) :
    (handle op d).1.roster.pending? host = none ∧
      (handle op d).1.roster.terminalAt? host slot = some t ∧
      (handle op d).1.roster.current = some host ∧ (handle op d).1.presented = some t := by
  obtain ⟨slot', requested, selected, outcome⟩ := b.outcome
  have after := c.handle op
  have gained := Roster.gained_of_attach c.wellFormed outcome
  obtain ⟨rfl, quiet, current, active⟩ := Roster.attach_of_pending c.wellFormed pending outcome
  exact ⟨quiet, gained.terminalAt? after.wellFormed, current, after.view.trans active⟩

theorem Binds.addition (b : d.Binds host op t) (c : d.Coherent)
    (quiet : d.roster.pending? host = none) :
    (handle op d).1.roster.pending? host = none ∧
      (handle op d).1.roster.current = d.roster.current ∧
      ∃ h h', d.roster.host? host = some h ∧ (handle op d).1.roster.host? host = some h' ∧
        (h'.selected = h.selected ∨ h.terminals = []) := by
  obtain ⟨slot, requested, selected, outcome⟩ := b.outcome
  exact Roster.attach_of_not_pending c.wellFormed quiet outcome

/-! ### Runs -/

theorem Undisturbed.waits (u : d.Undisturbed host turns) (c : d.Coherent)
    (pending : d.roster.pending? host = some slot) :
    (d.takeAll turns).1.roster.pending? host = some slot ∧
      .openTerminal host ∉ Effect.requests (d.takeAll turns).2 := by
  induction turns generalizing d with
  | nil => exact ⟨pending, by simp [takeAll, Effect.requests]⟩
  | cons turn turns ih =>
    cases turn with
    | enrolment e =>
      refine ih (d := d.enrol e) u (c.enrol e) ?_
      cases e <;> exact pending
    | operation op =>
      obtain ⟨⟨stays, nothing⟩, rest⟩ := List.forall_mem_cons.mp u
      rw [takeAll_operation, Effect.requests_append]
      rcases waiting_or_binds c stays with ⟨w, _⟩ | ⟨t, _, arrived⟩
      · cases w with
        | kept same silent =>
          obtain ⟨last, silent'⟩ := ih rest (c.handle op) (same.trans pending)
          exact ⟨last, by simp [silent, silent']⟩
        | asked _ quiet => simp [pending] at quiet
      · simp [nothing] at arrived

/-- What an operation asks for on a host and what is bound there balance. -/
theorem balance_handle (c : d.Coherent) (stays : op ≠ .report (.hostDisconnected host)) :
    (Effect.requests (handle op d).2).count (.openTerminal host) +
        (d.roster.pending? host).toList.length =
      (if d.answers host op then 1 else 0) +
        ((handle op d).1.roster.pending? host).toList.length := by
  rcases waiting_or_binds c stays with ⟨w, nothing⟩ | ⟨t, b, arrived⟩
  · cases w with
    | kept same silent => simp [answers, nothing, same, List.count_eq_zero_of_not_mem silent]
    | asked slot quiet waits once => simp [answers, nothing, quiet, waits, once]
  · cases pending : d.roster.pending? host with
    | none => simp [answers, arrived, pending, b.silent, (b.addition c pending).1]
    | some slot => simp [answers, arrived, pending, b.silent, (b.answer c pending).1]

theorem balance_takeAll (c : d.Coherent)
    (stays : ∀ x ∈ d.done turns, x.2 ≠ .report (.hostDisconnected host)) :
    (Effect.requests (d.takeAll turns).2).count (.openTerminal host) +
        (d.roster.pending? host).toList.length =
      (d.done turns).countP (fun x => x.1.answers host x.2) +
        ((d.takeAll turns).1.roster.pending? host).toList.length := by
  induction turns generalizing d with
  | nil => simp [takeAll, Effect.requests, done]
  | cons turn turns ih =>
    cases turn with
    | enrolment e =>
      rw [takeAll_enrolment, done, ← roster_enrol d e]
      exact ih (c.enrol e) stays
    | operation op =>
      obtain ⟨first, rest⟩ := List.forall_mem_cons.mp stays
      have now := balance_handle c (show op ≠ .report (.hostDisconnected host) from first)
      have later := ih (c.handle op) rest
      simp only [takeAll_operation, Effect.requests_append, List.count_append, done,
        List.countP_cons]
      omega

/-- Requests for terminals and their answers match one to one, whatever happened before. A request
makes the host wait in one slot. As long as the host is not disconnected and no terminal is bound
on it, it waits in that slot and there is no other request; the terminal that is bound next takes
the slot, is presented, and its host is current. A terminal bound on a host that does not wait
leaves the current host as it is, and the selected slot too unless there was none. From when the
host is not there until it is disconnected, the requests are as many as the terminals that were
bound while it waited, and one more if it waits. -/
theorem requests_answered (settings : Settings) (turns : List Turn) (host : HostId) :
    let d := ((start settings).1.takeAll turns).1
    (∀ op, .openTerminal host ∈ Effect.requests (handle op d).2 →
      let asked := (handle op d).1
      (Effect.requests (handle op d).2).count (.openTerminal host) = 1 ∧
      ∃ slot, asked.roster.Waits host slot ∧
        ∀ later, asked.Undisturbed host later →
          let last := (asked.takeAll later).1
          last.roster.Waits host slot ∧
          .openTerminal host ∉ Effect.requests (asked.takeAll later).2 ∧
          ∀ next t, last.arrival? host next = some t →
            (handle next last).1.roster.terminalAt? host slot = some t ∧
            (handle next last).1.roster.current = some host ∧
            (handle next last).1.presented = some t) ∧
    (∀ op t, d.arrival? host op = some t → d.roster.pending? host = none →
      (handle op d).1.roster.current = d.roster.current ∧
      ∃ h h', d.roster.host? host = some h ∧ (handle op d).1.roster.host? host = some h' ∧
        (h'.selected = h.selected ∨ h.terminals = [])) ∧
    (d.roster.host? host = none → ∀ life, .operation (.report (.hostDisconnected host)) ∉ life →
      (Effect.requests (d.takeAll life).2).count (.openTerminal host) =
        (d.done life).countP (fun x => x.1.answers host x.2) +
          if ((d.takeAll life).1.roster.pending? host).isSome then 1 else 0) := by
  intro d
  have c : d.Coherent := ((coherent_start settings).history turns).1
  refine ⟨?_, ?_, ?_⟩
  · intro op sends asked
    have stays : op ≠ .report (.hostDisconnected host) := by
      rintro rfl
      exact openTerminal_notMem_hostDisconnected d host host sends
    rcases waiting_or_binds c stays with ⟨w, _⟩ | ⟨t, b, _⟩
    · cases w with
      | kept _ silent => exact absurd sends silent
      | asked slot _ waits once =>
        have c₁ := c.handle op
        refine ⟨once, slot, Roster.waits_of_pending? c₁.wellFormed waits, ?_⟩
        intro later undisturbed last
        obtain ⟨pending, silent⟩ := undisturbed.waits c₁ waits
        have c₂ : last.Coherent := (c₁.history later).1
        refine ⟨Roster.waits_of_pending? c₂.wellFormed pending, silent, ?_⟩
        intro next t arrived
        exact ((binds_of_arrival c₂ arrived).answer c₂ pending).2
    · simp [b.silent] at sends
  · intro op t arrived quiet
    exact ((binds_of_arrival c arrived).addition c quiet).2
  · intro unknown life stays
    have connected : ∀ x ∈ d.done life, x.2 ≠ .report (.hostDisconnected host) := by
      intro x mem same
      exact stays (same ▸ operation_mem_of_mem_done mem)
    have balance := balance_takeAll c connected
    rw [Roster.pending?_of_unknown unknown] at balance
    rw [← Option.length_toList]
    simpa using balance

theorem requests_answered_first_host :
    let connect : Operation := .report (.hostConnected ⟨⟨1⟩, "", "", ""⟩)
    let ask : Operation := .intent (.addTerminal ⟨1⟩)
    let add : Operation := .report (.terminalAdded ⟨1⟩ ⟨7⟩)
    let idle := ((start {}).1.takeAll [.operation connect]).1
    let asked := (handle ask idle).1
    let waiting := (asked.takeAll [.operation ask]).1
    let life : List Turn := [.operation connect, .operation ask, .operation add, .operation ask]
    (∃ slot, waiting.roster.Waits ⟨1⟩ slot ∧
      (handle add waiting).1.roster.terminalAt? ⟨1⟩ slot = some ⟨7⟩) ∧
    (handle add idle).1.roster.current = idle.roster.current ∧
    (Effect.requests ((start {}).1.takeAll life).2).count (.openTerminal ⟨1⟩) = 1 + 1 := by
  intro connect ask add idle asked waiting life
  have sends : .openTerminal ⟨1⟩ ∈ Effect.requests (handle ask idle).2 := by decide +kernel
  have undisturbed : asked.Undisturbed ⟨1⟩ [.operation ask] := by
    intro x mem
    obtain rfl := List.mem_singleton.mp mem
    exact ⟨by simp [ask], by decide +kernel⟩
  have arrived : waiting.arrival? ⟨1⟩ add = some ⟨7⟩ := by decide +kernel
  have joined : idle.arrival? ⟨1⟩ add = some ⟨7⟩ := by decide +kernel
  have quiet : idle.roster.pending? ⟨1⟩ = none := by decide +kernel
  have answered := requests_answered {} [.operation connect] ⟨1⟩
  refine ⟨?_, (answered.2.1 add ⟨7⟩ joined quiet).1, ?_⟩
  · obtain ⟨_, slot, _, wait⟩ := answered.1 ask sends
    obtain ⟨waits, _, answer⟩ := wait [.operation ask] undisturbed
    exact ⟨slot, waits, (answer add ⟨7⟩ arrived).1⟩
  · refine ((requests_answered {} [] ⟨1⟩).2.2 rfl life ?_).trans (by decide +kernel)
    simp [life, connect, ask, add]

end Desk

end Switchboard
