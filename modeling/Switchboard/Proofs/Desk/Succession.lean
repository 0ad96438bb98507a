import Switchboard.Proofs.Desk.Ending
import Switchboard.Proofs.Desk.Miss

/-!
# Slots of earlier desks

What is done to a slot that was seen on an earlier desk concerns the session that it had then, or
nothing at all.
-/

namespace Switchboard.Desk

variable {d d' : Desk} {op : Operation} {acts : List Act} {turns : List Turn} {host : HostId}
  {slot : SlotId} {t : TerminalId}

/-! ### The roster over a run -/

theorem leads_move (c : d.Coherent) (m : Move op d d' acts) :
    d.roster.Leads d'.roster := by
  rcases m.roster with same | ⟨e, same⟩
  · rw [same]
    exact .refl _
  · rw [same]
    exact Roster.leads_edit c.wellFormed e

theorem leads_handle (c : d.Coherent) (op : Operation) :
    d.roster.Leads (handle op d).1.roster := by
  obtain ⟨d₁, acts, d₂, more, m, asks, e⟩ := handle_moves op d
  rw [e.eq]
  show d.roster.Leads d₂.roster
  cases asks with
  | nothing => exact leads_move c m
  | terminal m' => exact (leads_move c m).trans (leads_move (c.move m) m')

theorem leads_takeAll (c : d.Coherent) (turns : List Turn) :
    d.roster.Leads (d.takeAll turns).1.roster := by
  induction turns generalizing d with
  | nil => exact .refl _
  | cons turn turns ih =>
    cases turn with
    | operation op => exact (leads_handle c op).trans (ih (c.handle op))
    | enrolment e => exact d.roster_enrol e ▸ ih (c.enrol e)

/-! ### The session of a slot -/

/-- The session of a terminal lives on through every operation of a run. -/
def Lasts (d : Desk) (t : TerminalId) (turns : List Turn) : Prop :=
  ∀ x ∈ d.done turns, ∃ s s', x.1.sessions.get? t = some s ∧
    (handle x.2 x.1).1.sessions.get? t = some s' ∧ s.Continues s'

theorem Settled.session_of_bound (s : d.Settled)
    (bound : d.roster.terminalAt? host slot = some t) : ∃ s, d.sessions.get? t = some s :=
  Option.isSome_iff_exists.mp (s.contains_iff_holds.mpr ⟨host, Roster.holds_of_terminalAt? bound⟩)

/-- What is bound before and after an operation has the same session. -/
theorem continues_of_bound (c : d.Coherent) (bound : d.roster.terminalAt? host slot = some t)
    (still : (handle op d).1.roster.terminalAt? host slot = some t) :
    ∃ s s', d.sessions.get? t = some s ∧ (handle op d).1.sessions.get? t = some s' ∧
      s.Continues s' := by
  obtain ⟨s, live⟩ := c.session_of_bound bound
  rcases fate_handle c op live with ⟨⟨s', live', continues⟩, _⟩ | ⟨ending, ended, _⟩
  · exact ⟨s, s', live, live', continues⟩
  · obtain ⟨s', live'⟩ := (c.handle op).session_of_bound still
    simp [ending?, Sessions.contains, live'] at ended

theorem lasts_of_bound (c : d.Coherent) (bound : d.roster.terminalAt? host slot = some t)
    (still : (d.takeAll turns).1.roster.terminalAt? host slot = some t) : d.Lasts t turns := by
  induction turns generalizing d with
  | nil => exact fun x mem => nomatch mem
  | cons turn turns ih =>
    cases turn with
    | enrolment e => exact ih (c.enrol e) (by rwa [roster_enrol]) still
    | operation op =>
      have c' := c.handle op
      have between : (handle op d).1.roster.terminalAt? host slot = some t := by
        rcases (leads_handle c op).terminalAt? c.wellFormed c'.wellFormed bound with there | gone
        · exact there
        · -- Had the slot been gone then, it would be gone still.
          have given := Nat.lt_of_lt_of_le (c.wellFormed.given_of_terminalAt? bound)
            (leads_handle c op).next
          have gone' := (leads_takeAll c' turns).lacks (c'.history turns).1.wellFormed given gone
          exact absurd gone' (Roster.not_lacks_of_terminalAt? still)
      exact List.forall_mem_cons.mpr ⟨continues_of_bound c bound between, ih c' between still⟩

/-! ### What is done to a bound slot -/

/-- A click on a slot presents its terminal, and a close ends the session of its terminal. Neither
changes another bound slot or sends anything about another terminal. -/
structure Reaches (d : Desk) (host : HostId) (slot : SlotId) (t : TerminalId) : Prop where
  clicked : let after := handle (.intent (.selectSlot host slot)) d
    after.1.presented = some t ∧ after.1.sessions = d.sessions ∧
    d.roster.Spares after.1.roster slot ∧
    ∀ r ∈ Effect.requests after.2, r = .file t Remote.root true
  closed : let after := handle (.intent (.closeSlot host slot)) d
    after.1.sessions = d.sessions.destroy t ∧ after.1.roster.Lacks slot ∧
    d.roster.Spares after.1.roster slot ∧ Effect.requests after.2 = [.closeTerminal t]

theorem click_of_bound (c : d.Coherent) (bound : d.roster.terminalAt? host slot = some t) :
    ∃ d' acts, Enacts (handle (.intent (.selectSlot host slot))) d d' acts ∧
      d'.roster = (d.roster.selectSlot host slot).2 ∧ d'.sessions = d.sessions ∧
      ∀ r ∈ Act.requests acts, r = .file t Remote.root true := by
  rcases Roster.selectSlot_of_terminalAt? c.wellFormed bound with
    ⟨roster, outcome⟩ | ⟨face, roster, outcome⟩
  · refine ⟨_, _, enacts_slotSelected outcome rfl, ?_, rfl, by simp⟩
    rw [outcome]
    rfl
  · refine ⟨_, _, enacts_slotToggled outcome rfl, by rw [outcome], rfl, fun r mem => ?_⟩
    by_contra other
    split at mem <;> simp [notMem_listingActs other] at mem

theorem reaches_of_bound (c : d.Coherent) (bound : d.roster.terminalAt? host slot = some t) :
    d.Reaches host slot t where
  clicked := by
    intro after
    obtain ⟨d', acts, e, roster, sessions, requests⟩ := click_of_bound c bound
    have active := Roster.active?_selectSlot c.wellFormed bound
    have spared := d.roster.spares_selectSlot host slot
    rw [← roster] at active spared
    have shown : after.1.presented = after.1.roster.active? := (c.handle _).view
    have sent : Effect.requests after.2 = Act.requests acts := e.requests
    rw [shown, sent, show after.1 = _ from congrArg Prod.fst e.eq]
    exact ⟨active, sessions, spared, requests⟩
  closed := by
    intro after
    obtain ⟨closed, roster, outcome, rfl⟩ := Roster.closeSlot_of_terminalAt? c.wellFormed bound
    have e := enacts_closeSlot .presenter outcome rfl
    have gone := Roster.lacks_closeSlot c.wellFormed outcome
    have spared := d.roster.spares_closeSlot host slot
    rw [outcome] at spared
    have sent : Effect.requests after.2 = _ := (closings_requests c.toSettled bound none).2
    rw [sent, show after.1 = _ from congrArg Prod.fst e.eq]
    exact ⟨rfl, gone, spared, rfl⟩

/-- A slot that was bound once stands for the same terminal or for nothing. Over any changes of a
roster it keeps its host and its terminal until it is gone, and then it does not come back. So a
click on it or a close that comes later, after whatever happened on the desk, finds the session that
the slot had, which has lived on all the while, or does nothing. -/
theorem stale_slot_harmless :
    (∀ (cap : Nat) (edits : List Roster.Edit) (host : HostId) (slot : SlotId) (t : TerminalId),
      let r := ({ cap } : Roster).editAll edits
      r.terminalAt? host slot = some t → ∀ later,
        let r' := r.editAll later
        (r'.terminalAt? host slot = some t ∨ r'.Lacks slot) ∧
          (r'.Lacks slot → ∀ more, (r'.editAll more).Lacks slot)) ∧
    (∀ (settings : Settings) (turns : List Turn) (host : HostId) (slot : SlotId) (t : TerminalId),
      let d := ((start settings).1.takeAll turns).1
      d.roster.terminalAt? host slot = some t → ∀ later,
        let now := (d.takeAll later).1
        (now.roster.terminalAt? host slot = some t ∧ d.Lasts t later ∧
            now.Reaches host slot t) ∨
          (now.roster.Lacks slot ∧
            handle (.intent (.selectSlot host slot)) now = (now, []) ∧
            handle (.intent (.closeSlot host slot)) now = (now, []))) := by
  constructor
  · intro cap edits host slot t r bound later
    exact (Roster.wellFormed_editAll (Roster.wellFormed_start cap) edits).fate_of_slot bound later
  · intro settings turns host slot t d bound later now
    have c : d.Coherent := ((coherent_start settings).history turns).1
    have c' : now.Coherent := (c.history later).1
    rcases (leads_takeAll c later).terminalAt? c.wellFormed c'.wellFormed bound with still | gone
    · exact Or.inl ⟨still, lasts_of_bound c bound still, reaches_of_bound c' still⟩
    · have unbound := gone.terminalAt? host
      exact Or.inr ⟨gone, handle_unboundSlot c' rfl unbound, handle_unboundSlot c' rfl unbound⟩

theorem stale_slot_harmless_after_return :
    let info : HostInfo := ⟨⟨1⟩, "", "", ""⟩
    let edits : List Roster.Edit := [.addHost info, .attach ⟨1⟩ ⟨7⟩]
    let again : List Roster.Edit := [.removeHost ⟨1⟩, .addHost info, .attach ⟨1⟩ ⟨7⟩]
    let turns : List Turn :=
      [.operation (.report (.hostConnected info)), .operation (.report (.terminalAdded ⟨1⟩ ⟨7⟩))]
    let next : List Turn := [.operation (.report (.terminalAdded ⟨1⟩ ⟨8⟩))]
    let later : List Turn := .operation (.report (.hostDisconnected ⟨1⟩)) :: turns
    let r := ({ cap := 4 } : Roster).editAll edits
    let d := ((start {}).1.takeAll turns).1
    r.terminalAt? ⟨1⟩ ⟨1⟩ = some ⟨7⟩ ∧ (r.editAll again).Lacks ⟨1⟩ ∧
    d.roster.terminalAt? ⟨1⟩ ⟨1⟩ = some ⟨7⟩ ∧ d.Lasts ⟨7⟩ next ∧
    handle (.intent (.closeSlot ⟨1⟩ ⟨1⟩)) (d.takeAll later).1 = ((d.takeAll later).1, []) := by
  intro info edits again turns next later r d
  have held : r.terminalAt? ⟨1⟩ ⟨1⟩ = some ⟨7⟩ := by decide +kernel
  have left : (r.editAll again).terminalAt? ⟨1⟩ ⟨1⟩ ≠ some ⟨7⟩ := by decide +kernel
  have bound : d.roster.terminalAt? ⟨1⟩ ⟨1⟩ = some ⟨7⟩ := by decide +kernel
  have stays : (d.takeAll next).1.roster.terminalAt? ⟨1⟩ ⟨1⟩ = some ⟨7⟩ := by decide +kernel
  have gone : (d.takeAll later).1.roster.terminalAt? ⟨1⟩ ⟨1⟩ ≠ some ⟨7⟩ := by decide +kernel
  obtain ⟨rosters, desks⟩ := stale_slot_harmless
  have slots := rosters 4 edits ⟨1⟩ ⟨1⟩ ⟨7⟩ held again
  have sessions := desks {} turns ⟨1⟩ ⟨1⟩ ⟨7⟩ bound
  rw [show ((start {}).1.takeAll turns).1 = d from rfl] at sessions
  refine ⟨held, slots.1.resolve_left left, bound, ?_, ?_⟩
  · rcases sessions next with ⟨_, lasts, _⟩ | ⟨lacks, _⟩
    · exact lasts
    · exact absurd lacks (Roster.not_lacks_of_terminalAt? stays)
  · exact ((sessions later).resolve_left fun there => gone there.1).2.2

end Switchboard.Desk
