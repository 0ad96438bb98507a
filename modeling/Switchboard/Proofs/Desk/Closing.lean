import Switchboard.Proofs.Desk.Audience
import Switchboard.Proofs.Roster.Binding

/-!
# Closing a terminal

Whether the user closes a terminal or the server does, the desk and what the others hear are the
same. Only the server hears that the user closed it, and only of what the server closed does the
presenter hear. A second close does nothing.
-/

namespace Switchboard.Desk

variable {d d' : Desk} {host : HostId} {slot : SlotId} {t : TerminalId} {op : Operation}
  {turns : List Turn}

/-! ### The acts of a closing -/

/-- What a desk does when the slot of a terminal has been closed. -/
def closingActs (d : Desk) (origin : Origin) (host : HostId) (t : TerminalId) : List Act :=
  d.refreshActs origin ++ d.closeActs origin host t

theorem events_closingActs (d : Desk) (origin : Origin) (host : HostId) (t : TerminalId) :
    (d.closingActs origin host t).filterMap Act.event? =
      (if d.view.changes d.wanted? then [.terminalSelected (d.wanted?.map (·.id))] else []) ++
        [.terminalClosed host t] := by
  rw [closingActs, List.filterMap_append, events_refreshActs, events_closeActs]

/-- The cues of a closing do not depend on who closes. -/
theorem cues_closingActs (d : Desk) (origin : Origin) (host : HostId) (t : TerminalId) :
    (d.closingActs origin host t).filterMap Act.cue? =
      (if d.view.changes d.wanted? then d.refreshCues else []) ++
        ((d.roster.host? host).map Cue.slotsChanged).toList := by
  have cues : ∀ cs : List Cue, (cs.map Act.cue).filterMap Act.cue? = cs := by
    intro cs
    simp [List.filterMap_map, Function.comp_def, Act.cue?]
  have refresh : (d.refreshActs origin).filterMap Act.cue? =
      if d.view.changes d.wanted? then d.refreshCues else [] := by
    unfold refreshActs
    split
    · rw [List.filterMap_append, cues]
      exact List.append_nil _
    · rfl
  have close : (d.closeActs origin host t).filterMap Act.cue? =
      ((d.roster.host? host).map Cue.slotsChanged).toList := by
    unfold closeActs hostActs
    cases origin <;> cases d.roster.host? host <;> rfl
  rw [closingActs, List.filterMap_append, refresh, close]

theorem speaksFor_closingActs (d : Desk) (origin : Origin) (host : HostId) (t : TerminalId) :
    ∀ act ∈ d.closingActs origin host t, act.SpeaksFor (some origin) :=
  List.forall_mem_append.mpr ⟨d.speaksFor_refreshActs origin, d.speaksFor_closeActs origin host t⟩

/-! ### The two ways to close -/

theorem Settled.locate?_eq (s : d.Settled) (bound : d.roster.terminalAt? host slot = some t) :
    d.roster.locate? t = some (host, slot) := by
  have held := Roster.holds_of_terminalAt? bound
  cases located : d.roster.locate? t with
  | none => exact absurd held (Roster.not_holds_of_locate? located)
  | some there =>
    obtain ⟨host', slot'⟩ := there
    have bound' := Roster.terminalAt?_of_locate? s.wellFormed located
    obtain rfl := s.exclusive held (Roster.holds_of_terminalAt? bound')
    rw [s.wellFormed.slot_unique bound bound']

/-- Both ways to close a terminal change the desk to the same one, apart from what the acts do to
the bus. -/
theorem closings (s : d.Settled) (bound : d.roster.terminalAt? host slot = some t) :
    ∃ d₁ : Desk, d₁.view = d.view ∧
      (∀ named, Enacts (handle (.report (.terminalClosed named t))) d (d₁.refreshed.forgotten t)
        (d₁.closingActs .server host t)) ∧
      Enacts (handle (.intent (.closeSlot host slot))) d (d₁.refreshed.forgotten t)
        (d₁.closingActs .presenter host t) := by
  obtain ⟨closed, roster, outcome, rfl⟩ := Roster.closeSlot_of_terminalAt? s.wellFormed bound
  refine ⟨{ d with roster }, rfl, fun named => ?_, enacts_closeSlot .presenter outcome rfl⟩
  refine (enacts_closeSlot .server outcome rfl).of_eq rfl fun bus => ?_
  show terminalClosed closed.terminal { d with bus } = _
  simp [terminalClosed, s.locate?_eq bound]

theorem closings_desk (s : d.Settled) (bound : d.roster.terminalAt? host slot = some t)
    (named : Option HostId) :
    (handle (.report (.terminalClosed named t)) d).1 =
      { (handle (.intent (.closeSlot host slot)) d).1 with
        bus := (handle (.report (.terminalClosed named t)) d).1.bus } := by
  obtain ⟨d₁, _, server, user⟩ := closings s bound
  rw [(server named).eq, user.eq]

theorem closings_deliveries (s : d.Settled) (bound : d.roster.terminalAt? host slot = some t)
    (named : Option HostId) :
    Effect.deliveries (handle (.report (.terminalClosed named t)) d).2 =
      Effect.deliveries (handle (.intent (.closeSlot host slot)) d).2 := by
  obtain ⟨d₁, _, server, user⟩ := closings s bound
  rw [(server named).eq, user.eq, deliveries_relayAll, deliveries_relayAll, events_closingActs,
    events_closingActs]

theorem closings_cues (s : d.Settled) (bound : d.roster.terminalAt? host slot = some t)
    (named : Option HostId) :
    (Effect.cues (handle (.report (.terminalClosed named t)) d).2).filter (·.event?.isNone) =
      Effect.cues (handle (.intent (.closeSlot host slot)) d).2 := by
  obtain ⟨d₁, _, server, user⟩ := closings s bound
  have speaks := d₁.speaksFor_closingActs .presenter host t
  rw [(server named).eq, user.eq, plain_cues_relayAll,
    cues_of_presenter _ _ speaks (by simp), cues_closingActs,
    ← cues_closingActs d₁ .presenter host t, List.filter_eq_self]
  intro cue mem
  simp [plain_of_speaksFor speaks cue mem]

theorem closings_requests (s : d.Settled) (bound : d.roster.terminalAt? host slot = some t)
    (named : Option HostId) :
    Effect.requests (handle (.report (.terminalClosed named t)) d).2 = [] ∧
      Effect.requests (handle (.intent (.closeSlot host slot)) d).2 = [.closeTerminal t] := by
  obtain ⟨d₁, _, server, user⟩ := closings s bound
  rw [(server named).requests, user.requests]
  constructor <;> simp [closingActs]

/-- The presenter hears that the terminal is presented no more, if it was, and that it is closed. -/
theorem closings_events (s : d.Settled) (bound : d.roster.terminalAt? host slot = some t)
    (attends : d.bus.Attends d.presenter) (named : Option HostId) :
    let server := handle (.report (.terminalClosed named t)) d
    (Effect.cues server.2).filterMap Cue.event? =
      if d.bus.contains d.presenter then
        (if server.1.presented ≠ d.presented then [.terminalSelected server.1.presented] else []) ++
          [.terminalClosed host t]
      else [] := by
  intro server
  obtain ⟨d₁, view, byServer, _⟩ := closings s bound
  have shape : server = _ := (byServer named).eq
  have shown : server.1.presented = d₁.wanted?.map (·.id) := by
    rw [shape]
    rfl
  have events : (Effect.cues (d.bus.relayAll d.presenter
      (d₁.closingActs .server host t)).2).filterMap Cue.event? = _ :=
    event_cues_of_server attends (d₁.speaksFor_closingActs _ _ _)
  rw [shown, shape]
  refine events.trans ?_
  simp only [events_closingActs, View.changes, view, presented, bne_iff_ne]
  rfl

theorem unlive_of_closing (s : d.Settled) (bound : d.roster.terminalAt? host slot = some t)
    (named : Option HostId) :
    (handle (.report (.terminalClosed named t)) d).1.sessions.contains t = false ∧
      (handle (.intent (.closeSlot host slot)) d).1.sessions.contains t = false := by
  obtain ⟨d₁, _, server, user⟩ := closings s bound
  rw [(server named).eq, user.eq]
  constructor <;> simp [forgotten, Sessions.contains]

/-! ### A second close -/

theorem forgotten_of_unlive (c : d.Coherent) (unlive : d.sessions.contains t = false) :
    d.forgotten t = d := by
  have unsized : d.sizes.get? t = none := by
    by_contra sized
    simp [c.sizes t (Option.isSome_iff_ne_none.mpr sized)] at unlive
  rw [forgotten, Sessions.destroy_eq_self unlive, Table.erase_eq_self unsized]

theorem close_unlive (c : d.Coherent) (unlive : d.sessions.contains t = false)
    (named : Option HostId) : handle (.report (.terminalClosed named t)) d = (d, []) := by
  have unheld : d.roster.locate? t = none := by
    rw [Option.eq_none_iff_forall_ne_some]
    rintro ⟨host, slot⟩ located
    have bound := Roster.terminalAt?_of_locate? c.wellFormed located
    exact c.not_holds unlive host (Roster.holds_of_terminalAt? bound)
  have forgotten : (forget t d).1 = d := forgotten_of_unlive c unlive
  show terminalClosed t d = (d, [])
  simp only [terminalClosed, unheld]
  exact Prod.ext forgotten rfl

/-- Over a run no addition of a terminal starts a session of it. -/
def Unadded (d : Desk) (t : TerminalId) (turns : List Turn) : Prop :=
  ∀ x ∈ d.done turns, ∀ host, x.2 = .report (.terminalAdded host t) →
    (handle x.2 x.1).1.sessions.contains t = false

theorem unlive_handle (c : d.Coherent) (unlive : d.sessions.contains t = false)
    (unadded : ∀ host, op = .report (.terminalAdded host t) →
      (handle op d).1.sessions.contains t = false) :
    (handle op d).1.sessions.contains t = false := by
  cases live : (handle op d).1.sessions.contains t with
  | false => rfl
  | true =>
    obtain ⟨host, held⟩ := (c.handle op).contains_iff_holds.mp live
    by_cases added : op = .report (.terminalAdded host t)
    · exact live.symm.trans (unadded host added)
    · exact absurd (holds_of_handle c added held) (c.not_holds unlive host)

theorem Unadded.unlive (u : d.Unadded t turns) (c : d.Coherent)
    (unlive : d.sessions.contains t = false) :
    (d.takeAll turns).1.sessions.contains t = false := by
  induction turns generalizing d with
  | nil => exact unlive
  | cons turn turns ih =>
    cases turn with
    | enrolment e =>
      refine ih (d := d.enrol e) u (c.enrol e) ?_
      cases e <;> exact unlive
    | operation op =>
      obtain ⟨first, rest⟩ := List.forall_mem_cons.mp u
      exact ih rest (c.handle op) (unlive_handle c unlive first)

/-- A terminal that has been closed stays closed until it is added again, and closing it does
nothing. -/
theorem close_again (c : d.Coherent) (unlive : d.sessions.contains t = false)
    (u : d.Unadded t turns) (named : Option HostId) :
    let last := (d.takeAll turns).1
    handle (.report (.terminalClosed named t)) last = (last, []) :=
  close_unlive (c.history turns).1 (u.unlive c unlive) named

/-- Whoever closes a bound terminal, and whatever host the server names, the desk becomes the same
but for its bus, the other subscribers hear the same and the presenter gets the same cues. The
server is asked to close the terminal only if the user closed it, and the presenter hears the
events, as long as it is subscribed, only if the server did. Until the terminal is added again,
nothing comes of another report that it is closed. -/
theorem closings_converge (settings : Settings) (turns : List Turn) (host : HostId) (slot : SlotId)
    (t : TerminalId) (named : Option HostId) :
    let d := ((start settings).1.takeAll turns).1
    d.roster.terminalAt? host slot = some t →
    let user := handle (.intent (.closeSlot host slot)) d
    let server := handle (.report (.terminalClosed named t)) d
    server.1 = { user.1 with bus := server.1.bus } ∧
    Effect.deliveries server.2 = Effect.deliveries user.2 ∧
    (Effect.cues server.2).filter (·.event?.isNone) = Effect.cues user.2 ∧
    Effect.requests user.2 = [.closeTerminal t] ∧ Effect.requests server.2 = [] ∧
    (Effect.cues server.2).filterMap Cue.event? =
      (if d.bus.contains d.presenter then
        (if server.1.presented ≠ d.presented then [.terminalSelected server.1.presented] else []) ++
          [.terminalClosed host t]
      else []) ∧
    ∀ closed ∈ [user.1, server.1], ∀ later, closed.Unadded t later → ∀ named',
      let last := (closed.takeAll later).1
      handle (.report (.terminalClosed named' t)) last = (last, []) := by
  intro d bound user server
  have c : d.Coherent := ((coherent_start settings).history turns).1
  have s := c.toSettled
  obtain ⟨silent, asks⟩ := closings_requests s bound named
  obtain ⟨unlive, unlive'⟩ := unlive_of_closing s bound named
  refine ⟨closings_desk s bound named, closings_deliveries s bound named,
    closings_cues s bound named, asks, silent,
    closings_events s bound (attends_history settings turns) named, ?_⟩
  intro closed mem later unadded named'
  rcases List.mem_pair.mp mem with rfl | rfl
  · exact close_again (c.handle _) unlive' unadded named'
  · exact close_again (c.handle _) unlive unadded named'

theorem closings_converge_first_terminal :
    let turns : List Turn :=
      [.operation (.report (.hostConnected ⟨⟨1⟩, "", "", ""⟩)),
        .operation (.report (.terminalAdded ⟨1⟩ ⟨7⟩))]
    let later : List Turn := [.operation (.report (.terminalAdded ⟨2⟩ ⟨7⟩))]
    let d := ((start {}).1.takeAll turns).1
    let user := handle (.intent (.closeSlot ⟨1⟩ ⟨1⟩)) d
    let server := handle (.report (.terminalClosed (some ⟨2⟩) ⟨7⟩)) d
    let last := (user.1.takeAll later).1
    d.roster.terminalAt? ⟨1⟩ ⟨1⟩ = some ⟨7⟩ ∧
    Effect.deliveries server.2 = Effect.deliveries user.2 ∧
    handle (.report (.terminalClosed none ⟨7⟩)) last = (last, []) := by
  intro turns later d user server last
  have bound : d.roster.terminalAt? ⟨1⟩ ⟨1⟩ = some ⟨7⟩ := by decide +kernel
  have unadded : user.1.Unadded ⟨7⟩ later := by
    intro x mem host _
    obtain rfl := List.mem_singleton.mp mem
    decide +kernel
  obtain ⟨_, heard, _, _, _, _, again⟩ :=
    closings_converge {} turns ⟨1⟩ ⟨1⟩ ⟨7⟩ (some ⟨2⟩) bound
  exact ⟨bound, heard, again user.1 List.mem_cons_self later unadded none⟩

end Switchboard.Desk
