import Switchboard.Proofs.Desk.Closing
import Switchboard.Proofs.Roster.Succession

/-!
# Operations that miss

What an operation names may not be there, may be there already, or may be refused. Such an operation
does nothing at all, and an operation that connects, disconnects or closes misses when it is
repeated.
-/

namespace Switchboard

/-- The host that an operation takes to be connected. -/
def Operation.host? : Operation → Option HostId
  | .report (.hostDisconnected host) | .report (.terminalAdded host _)
  | .intent (.selectHost host) | .intent (.addTerminal host) => some host
  | _ => none

/-- The terminal that an operation takes to be live. -/
def Operation.terminal? : Operation → Option TerminalId
  | .report (.terminalOutput t _) | .report (.terminalClosed _ t)
  | .report (.directoryListing t _ _) | .intent (.key t _) | .intent (.resize t _)
  | .intent (.openEntry t _) | .intent (.listDirectory t _) => some t
  | _ => none

/-- The slot that an operation takes to be bound, and its host. -/
def Operation.slot? : Operation → Option (HostId × SlotId)
  | .intent (.selectSlot host slot) | .intent (.closeSlot host slot) => some (host, slot)
  | _ => none

/-- The operations that a second time find done what they ask for. -/
inductive Operation.Settles : Operation → Prop where
  | hostConnected (info : HostInfo) : Settles (.report (.hostConnected info))
  | hostDisconnected (host : HostId) : Settles (.report (.hostDisconnected host))
  | terminalClosed (named : Option HostId) (t : TerminalId) :
      Settles (.report (.terminalClosed named t))
  | closeSlot (host : HostId) (slot : SlotId) : Settles (.intent (.closeSlot host slot))

namespace Roster

variable {r : Roster} {id i : HostId} {slot : SlotId} {t : TerminalId}

theorem attach_of_unknown (unknown : r.host? id = none) (t : TerminalId) :
    r.attach id t = (.unknownHost, r) := by
  simp [attach, unknown]

theorem request_of_unknown (unknown : r.host? id = none) : r.request id = (none, r) := by
  simp [request, unknown]

theorem isSome_host?_request (r : Roster) (id i : HostId) :
    ((r.request id).2.host? i).isSome = (r.host? i).isSome := by
  have outcome := r.request_cases id
  generalize r.request id = result at outcome ⊢
  cases outcome with
  | unknownHost | refused => rfl
  | accepted =>
    rw [host?_put]
    split <;> simp

end Roster

namespace Desk

variable {d d' : Desk} {op : Operation} {acts : List Act} {host : HostId} {slot : SlotId}
  {t : TerminalId}

/-- An operation names something that is not there, that is there already, or that is refused. -/
inductive Misses (d : Desk) : Operation → Prop where
  | unknownHost {op : Operation} {host : HostId} (named : op.host? = some host)
      (unknown : d.roster.host? host = none) : Misses d op
  | deadTerminal {op : Operation} {t : TerminalId} (named : op.terminal? = some t)
      (dead : d.sessions.contains t = false) : Misses d op
  | unboundSlot {op : Operation} {host : HostId} {slot : SlotId}
      (named : op.slot? = some (host, slot))
      (unbound : ∀ h ∈ d.roster.hosts, h.id = host → ∀ s ∈ h.slots, s.id = slot →
        s.isFree = true) : Misses d op
  | connectedHost {info : HostInfo} (known : (d.roster.host? info.id).isSome) :
      Misses d (.report (.hostConnected info))
  | busyHost {host : HostId} {h : Host} (found : d.roster.host? host = some h)
      (busy : h.isActivating = true ∨ d.roster.cap ≤ h.sessionCount) :
      Misses d (.intent (.addTerminal host))
  | liveTerminal {host : HostId} {t : TerminalId} (live : d.sessions.contains t = true) :
      Misses d (.report (.terminalAdded host t))
  | pastListing {t : TerminalId} {index : Nat} {s : Session} (live : d.sessions.get? t = some s)
      (past : (s.listing.elim [] (·.entries)).length ≤ index) :
      Misses d (.intent (.openEntry t index))

theorem Misses.withBus (m : d.Misses op) (bus : Bus) : ({ d with bus } : Desk).Misses op := by
  cases m with
  | unknownHost named unknown => exact .unknownHost named unknown
  | deadTerminal named dead => exact .deadTerminal named dead
  | unboundSlot named unbound => exact .unboundSlot named unbound
  | connectedHost known => exact .connectedHost known
  | busyHost found busy => exact .busyHost found busy
  | liveTerminal live => exact .liveTerminal live
  | pastListing live past => exact .pastListing live past

/-! ### A miss does nothing -/

theorem handle_unknownHost (named : op.host? = some host) (unknown : d.roster.host? host = none) :
    handle op d = (d, []) := by
  unfold Operation.host? at named
  split at named <;> cases named
  · show hostDisconnected host d = _
    simp [hostDisconnected, Roster.removeHost_of_unknown unknown]
  · rename_i t
    show terminalAdded host t d = _
    simp [terminalAdded, Roster.attach_of_unknown unknown]
  · show selectHost host d = _
    simp [selectHost, Roster.selectHost_of_unknown unknown]
  · show requestTerminal host d = _
    simp [requestTerminal, Roster.request_of_unknown unknown]

theorem handle_deadTerminal (c : d.Coherent) (named : op.terminal? = some t)
    (dead : d.sessions.contains t = false) : handle op d = (d, []) := by
  have gone : d.sessions.get? t = none := by simpa [Sessions.contains] using dead
  unfold Operation.terminal? at named
  split at named <;> cases named
  · rename_i output
    show terminalOutput t output.bytes d = _
    simp [terminalOutput, dead]
  · exact close_unlive c dead _
  · rename_i path files
    show directoryListing t path files d = _
    simp [directoryListing, Sessions.list, Sessions.update_eq_self dead, gone]
  · rename_i text
    show key t text d = _
    simp [key, dead]
  · rename_i size
    show resize t size d = _
    simp [resize, dead]
  · rename_i index
    show openEntry t index d = _
    simp [openEntry, gone]
  · rename_i path
    show listDirectory t path d = _
    simp [listDirectory, gone]

theorem handle_unboundSlot (c : d.Coherent) (named : op.slot? = some (host, slot))
    (unbound : d.roster.terminalAt? host slot = none) : handle op d = (d, []) := by
  unfold Operation.slot? at named
  split at named <;> cases named
  · show selectSlot host slot d = _
    simp [selectSlot, Roster.selectSlot_of_unbound c.wellFormed unbound]
  · show closeSlot .presenter host slot d = _
    simp [closeSlot, Roster.closeSlot_of_unbound c.wellFormed unbound]

theorem handle_of_misses (c : d.Coherent) (m : d.Misses op) : handle op d = (d, []) := by
  cases m with
  | unknownHost named unknown => exact handle_unknownHost named unknown
  | deadTerminal named dead => exact handle_deadTerminal c named dead
  | unboundSlot named unbound =>
    exact handle_unboundSlot c named (c.wellFormed.terminalAt?_eq_none_iff.mpr unbound)
  | @connectedHost info known =>
    obtain ⟨h, found⟩ := Option.isSome_iff_exists.mp known
    show hostConnected info d = _
    simp [hostConnected, Roster.addHost_of_known found]
  | @busyHost host h found busy =>
    show requestTerminal host d = _
    simp [requestTerminal, Roster.request_of_busy c.wellFormed found busy]
  | @liveTerminal host t live =>
    show terminalAdded host t d = _
    simp [terminalAdded, live]
  | @pastListing t index s live past =>
    have nowhere : s.navigate? index = none := by
      cases listed : s.listing with
      | none => simp [Session.navigate?, listed]
      | some l =>
        have past : l.entries.length ≤ index := by simpa [listed] using past
        simp [Session.navigate?, listed, Remote.Listing.navigate?, past]
    show openEntry t index d = _
    simp [openEntry, live, nowhere]

/-! ### Repeated operations -/

theorem isSome_host?_asks {greeted : Option (HostId × Roster)} (a : Asks greeted d d' acts)
    (id : HostId) :
    (d'.roster.host? id).isSome = (d.roster.host? id).isSome := by
  rcases asks_cases a with ⟨rfl, -⟩ | ⟨host, slot, roster, outcome, rfl, -⟩
  · rfl
  · obtain rfl := congrArg Prod.snd outcome
    exact d.roster.isSome_host?_request host id

theorem misses_hostConnected (info : HostInfo) (d : Desk) :
    (handle (.report (.hostConnected info)) d).1.Misses (.report (.hostConnected info)) := by
  refine .connectedHost ?_
  show ((hostConnected info d).1.roster.host? info.id).isSome = true
  rcases d.roster.addHost_cases info with ⟨known, same⟩ | ⟨fresh, new⟩
  · simpa [hostConnected, same] using known
  · have outcome : d.roster.addHost info = (true, (d.roster.addHost info).2) := Prod.ext new rfl
    obtain ⟨d₂, more, asks, e⟩ := enacts_hostConnected outcome rfl
    rw [e.eq]
    refine (isSome_host?_asks asks info.id).trans ?_
    simp [Roster.host?_addHost fresh]

theorem misses_hostDisconnected (host : HostId) (d : Desk) :
    (handle (.report (.hostDisconnected host)) d).1.Misses (.report (.hostDisconnected host)) := by
  refine .unknownHost rfl ?_
  have gone := d.roster.host?_removeHost_self host
  show (hostDisconnected host d).1.roster.host? host = none
  match outcome : d.roster.removeHost host with
  | (none, roster) =>
    rcases d.roster.removeHost_cases host with ⟨unknown, same⟩ | ⟨h, found, same⟩
    · simpa [hostDisconnected, same] using unknown
    · simp [outcome] at same
  | (some removed, roster) =>
    rw [outcome] at gone
    rw [(enacts_hostDisconnected outcome rfl).eq, foldl_forgotten]
    exact gone

theorem unlive_of_closed (c : d.Coherent) (named : Option HostId) (t : TerminalId) :
    (handle (.report (.terminalClosed named t)) d).1.sessions.contains t = false := by
  cases live : d.sessions.contains t with
  | false => rwa [close_unlive c live named]
  | true =>
    obtain ⟨host, held⟩ := c.contains_iff_holds.mp live
    obtain ⟨slot, bound⟩ := c.wellFormed.terminalAt?_of_holds held
    exact (unlive_of_closing c.toSettled bound named).1

theorem misses_closeSlot (c : d.Coherent) (host : HostId) (slot : SlotId) :
    (handle (.intent (.closeSlot host slot)) d).1.Misses (.intent (.closeSlot host slot)) := by
  refine .unboundSlot rfl ((c.handle _).wellFormed.terminalAt?_eq_none_iff.mp ?_)
  cases bound : d.roster.terminalAt? host slot with
  | none => rwa [handle_unboundSlot c rfl bound]
  | some t =>
    obtain ⟨closed, roster, outcome, _⟩ := Roster.closeSlot_of_terminalAt? c.wellFormed bound
    have gone := Roster.lacks_closeSlot c.wellFormed outcome
    show (closeSlot .presenter host slot d).1.roster.terminalAt? host slot = none
    rw [(enacts_closeSlot .presenter outcome rfl).eq]
    exact gone.terminalAt? host

/-- An operation that connects, disconnects or closes misses when it is repeated. -/
theorem misses_again (c : d.Coherent) (again : op.Settles) : (handle op d).1.Misses op := by
  cases again with
  | hostConnected info => exact misses_hostConnected info d
  | hostDisconnected host => exact misses_hostDisconnected host d
  | terminalClosed named t => exact .deadTerminal rfl (unlive_of_closed c named t)
  | closeSlot host slot => exact misses_closeSlot c host slot

theorem run_twice (c : d.Coherent) (again : op.Settles) : d.run [op, op] = d.run [op] := by
  have second := handle_of_misses (c.handle op) (misses_again c again)
  simp only [run_cons, second, run_nil, List.append_nil]

/-- Whatever happened before and whoever is subscribed, an operation that misses changes nothing,
sends nothing, and neither the presenter nor anyone else hears of it. Connecting a host,
disconnecting one, the end of a terminal at the server and closing a slot come to the same done
twice as done once. -/
theorem misses_change_nothing (settings : Settings) (turns : List Turn) :
    let d := ((start settings).1.takeAll turns).1
    (∀ op, d.Misses op → ∀ bus, handle op { d with bus } = ({ d with bus }, [])) ∧
    ∀ op, op.Settles → d.run [op, op] = d.run [op] := by
  intro d
  have c : d.Coherent := ((coherent_start settings).history turns).1
  exact ⟨fun op m bus => handle_of_misses (c.withBus bus) (m.withBus bus),
    fun op again => run_twice c again⟩

theorem misses_change_nothing_other_host :
    let turns : List Turn :=
      [.operation (.report (.hostConnected ⟨⟨1⟩, "", "", ""⟩)),
        .operation (.report (.terminalAdded ⟨1⟩ ⟨7⟩)),
        .operation (.report (.hostConnected ⟨⟨2⟩, "", "", ""⟩))]
    let d := ((start {}).1.takeAll turns).1
    let click : Operation := .intent (.selectSlot ⟨2⟩ ⟨1⟩)
    let close : Operation := .intent (.closeSlot ⟨1⟩ ⟨1⟩)
    d.roster.terminalAt? ⟨1⟩ ⟨1⟩ = some ⟨7⟩ ∧ d.Misses click ∧ close.Settles ∧
    handle click d = (d, []) ∧ d.run [close, close] = d.run [close] := by
  intro turns d click close
  have unbound : ∀ h ∈ d.roster.hosts, h.id = ⟨2⟩ → ∀ s ∈ h.slots, s.id = ⟨1⟩ →
      s.isFree = true := by decide +kernel
  have missed : d.Misses click := .unboundSlot rfl unbound
  have settles : close.Settles := .closeSlot ⟨1⟩ ⟨1⟩
  obtain ⟨still, once⟩ := misses_change_nothing {} turns
  exact ⟨by decide +kernel, missed, settles, still click missed d.bus, once close settles⟩

end Desk

end Switchboard
