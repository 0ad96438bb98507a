import Switchboard.Desk.Operation
import Switchboard.Proofs.Desk.Act
import Switchboard.Proofs.Roster.Cases

/-!
# Moves of a desk

Everything that an operation can do to a desk, as a relation. `handle_moves`: every operation is a
move, and a host that was taken in or selected may make the desk ask for a terminal, which is a move
too.
-/

namespace Switchboard

/-- The output that an operation reports of a terminal. -/
def Operation.outputOf (t : TerminalId) : Operation → Bytes
  | .report (.terminalOutput u output) => if u = t then output.bytes else []
  | _ => []

namespace Desk

open Wire

variable {d d' : Desk}

def listingActs (d : Desk) (t : TerminalId) : List Act :=
  match d.sessions.get? t with
  | none => []
  | some s => if s.listing.isSome then [.cue (.entries s)] else [.send (.file t Remote.root true)]

def closeActs (d : Desk) (origin : Origin) (host : HostId) (t : TerminalId) : List Act :=
  (if origin = .presenter then [.send (.closeTerminal t)] else []) ++
    [.publish origin (.terminalClosed host t)] ++ d.hostActs .slotsChanged host

/-- The operations that close a slot, and on whose behalf. -/
def Closes (d : Desk) (host : HostId) (slot : SlotId) : Operation → Origin → Prop
  | .report (.terminalClosed _ t), .server => d.roster.locate? t = some (host, slot)
  | .intent (.closeSlot h s), .presenter => h = host ∧ s = slot
  | _, _ => False

theorem Closes.outputOf {op : Operation} {origin : Origin} {host : HostId} {slot : SlotId}
    {t : TerminalId} (why : d.Closes host slot op origin) : op.outputOf t = [] := by
  cases op with
  | report r => cases r <;> first | rfl | exact why.elim
  | intent i => rfl
  | command c => rfl

/-- What an operation can do to a desk: the desk after it and its acts. -/
inductive Move : Operation → Desk → Desk → List Act → Prop where
  | ignored {op : Operation} {d : Desk}
      (quiet : ∀ t, d.sessions.contains t → op.outputOf t = []) : Move op d d []
  | hostConnected {d d₁ : Desk} {info : HostInfo} {roster : Roster}
      (outcome : d.roster.addHost info = (true, roster)) (grown : d₁ = { d with roster }) :
      Move (.report (.hostConnected info)) d d₁
        (d₁.hostActs .hostAdded info.id ++
          (if roster.current ≠ d.roster.current
            then [.publish .server (.hostSelected roster.current)] else []))
  | hostDisconnected {d d₁ : Desk} {host : HostId} {removed : RemovedHost} {roster : Roster}
      (outcome : d.roster.removeHost host = (some removed, roster))
      (left : d₁ = { d with roster }) :
      Move (.report (.hostDisconnected host)) d
        (removed.host.terminals.foldl forgotten d₁.refreshed)
        (d₁.refreshActs .server ++ removed.host.terminals.flatMap (endActs host) ++
          [.cue (.hostRemoved host)] ++
          (if removed.wasCurrent then [.publish .server (.hostSelected roster.current)] else []))
  | terminalRefused {d : Desk} {host : HostId} {t : TerminalId} {roster : Roster}
      (fresh : d.sessions.contains t = false)
      (full : d.roster.attach host t = (.atCapacity, roster)) :
      Move (.report (.terminalAdded host t)) d d [.send (.closeTerminal t)]
  | terminalAdded {d d₁ : Desk} {host : HostId} {t : TerminalId} {slot : SlotId}
      {requested selected : Bool} {roster : Roster} (fresh : d.sessions.contains t = false)
      (outcome : d.roster.attach host t = (.attached slot requested selected, roster))
      (grown : d₁ = { d with roster, sessions := d.sessions.create t host }) :
      Move (.report (.terminalAdded host t)) d (if selected then d₁.refreshed else d₁)
        ([.publish .server (.terminalAdded host t)] ++ d₁.hostActs .slotsChanged host ++
          (if requested ∨ roster.current ≠ d.roster.current
            then [.publish .server (.hostSelected roster.current)] else []) ++
          (if selected then d₁.refreshActs .server else []))
  | terminalOutput {d : Desk} {t : TerminalId} {output : Payload}
      (live : d.sessions.contains t = true) :
      Move (.report (.terminalOutput t output)) d
        { d with sessions := d.sessions.append t output.bytes }
        (if d.presented = some t then [.cue (.output t output.bytes)] else [])
  | terminalClosed {d d₁ : Desk} {op : Operation} {origin : Origin} {host : HostId} {slot : SlotId}
      {closed : ClosedSlot} {roster : Roster} (why : d.Closes host slot op origin)
      (outcome : d.roster.closeSlot host slot = (some closed, roster))
      (left : d₁ = { d with roster }) :
      Move op d (d₁.refreshed.forgotten closed.terminal)
        (d₁.refreshActs origin ++ d₁.closeActs origin host closed.terminal)
  | unheldClosed {d : Desk} {named : Option HostId} {t : TerminalId}
      (unheld : d.roster.locate? t = none) :
      Move (.report (.terminalClosed named t)) d (d.forgotten t) []
  | directoryListing {d : Desk} {t : TerminalId} {path : String} {files : List ListedFile}
      {sessions : Sessions} (listed : sessions = d.sessions.list t path files) :
      Move (.report (.directoryListing t path files)) d { d with sessions }
        ((sessions.get? t).map fun s => Act.cue (.entries s)).toList
  | hostSelected {d d₁ : Desk} {host : HostId} {roster : Roster}
      (outcome : d.roster.selectHost host = (true, roster)) (moved : d₁ = { d with roster }) :
      Move (.intent (.selectHost host)) d d₁.refreshed
        ((if d.roster.current ≠ some host
            then [.publish .presenter (.hostSelected roster.current)] else []) ++
          d₁.refreshActs .presenter)
  | terminalRequested {d d₁ : Desk} {host : HostId} {slot : SlotId} {roster : Roster}
      (outcome : d.roster.request host = (some slot, roster)) (asked : d₁ = { d with roster }) :
      Move (.intent (.addTerminal host)) d d₁
        (.send (.openTerminal host) :: d₁.hostActs .slotsChanged host)
  | slotSelected {d d₁ : Desk} {host : HostId} {slot : SlotId} {t : TerminalId} {roster : Roster}
      (outcome : d.roster.selectSlot host slot = (.selected t, roster))
      (moved : d₁ = { d with roster }) :
      Move (.intent (.selectSlot host slot)) d d₁.refreshed
        (d₁.hostActs .slotsChanged host ++ [.publish .presenter (.hostSelected roster.current)] ++
          d₁.refreshActs .presenter)
  | slotToggled {d d₁ : Desk} {host : HostId} {slot : SlotId} {t : TerminalId} {face : Face}
      {roster : Roster} (outcome : d.roster.selectSlot host slot = (.toggled t face, roster))
      (flipped : d₁ = { d with roster }) :
      Move (.intent (.selectSlot host slot)) d d₁
        (d₁.hostActs .slotsChanged host ++ [.cue (.fileBrowser t (face = Face.files))] ++
          (if face = Face.files then d₁.listingActs t else []))
  | typed {d : Desk} {t : TerminalId} {text : String} (live : d.sessions.contains t = true) :
      Move (.intent (.key t text)) d d [.send (.key t text)]
  | resized {d : Desk} {t : TerminalId} {size : Size} (live : d.sessions.contains t = true)
      (other : d.sizes.get? t ≠ some size) :
      Move (.intent (.resize t size)) d { d with sizes := d.sizes.put t size }
        [.send (.resize t size)]
  | directoryOpened {d : Desk} {t : TerminalId} {index : Nat} {path : String}
      (leads : (d.sessions.get? t).bind (·.navigate? index) = some (.list path)) :
      Move (.intent (.openEntry t index)) d d [.send (.file t path true)]
  | fileOpened {d : Desk} {t : TerminalId} {index : Nat} {path : String}
      (leads : (d.sessions.get? t).bind (·.navigate? index) = some (.download path)) :
      Move (.intent (.openEntry t index)) d d [.cue (.download t path)]
  | directoryAsked {d : Desk} {t : TerminalId} {s : Session} {path : String}
      (live : d.sessions.get? t = some s) :
      Move (.intent (.listDirectory t path)) d d [.send (.file t (directoryOf s path) true)]
  | noticed (d : Desk) (c : Command) (text : String) :
      Move (.command c) d d [.cue (.notice text)]

/-- The host that an operation takes in or selects, and the roster that has it so. -/
def greeting? (d : Desk) : Operation → Option (HostId × Roster)
  | .report (.hostConnected info) => some (info.id, (d.roster.addHost info).2)
  | .intent (.selectHost host) => some (host, (d.roster.selectHost host).2)
  | _ => none

/-- After a host was taken in or selected, a desk may ask for a terminal there. -/
inductive Asks (greeted : Option (HostId × Roster)) : Desk → Desk → List Act → Prop where
  | nothing (d : Desk) : Asks greeted d d []
  | terminal {d d' : Desk} {acts : List Act} {host : HostId}
      (m : Move (.intent (.addTerminal host)) d d' acts)
      (there : greeted = some (host, d.roster)) :
      Asks greeted d d' acts

/-- Nothing is asked for, or a terminal for an idle slot of a host. -/
theorem asks_cases {d d' : Desk} {acts : List Act} {greeted : Option (HostId × Roster)}
    (a : Asks greeted d d' acts) :
    (d' = d ∧ acts = []) ∨
      ∃ host slot roster, d.roster.request host = (some slot, roster) ∧ d' = { d with roster } ∧
        acts = .send (.openTerminal host) :: d'.hostActs .slotsChanged host := by
  cases a with
  | nothing => exact Or.inl ⟨rfl, rfl⟩
  | terminal m =>
    cases m with
    | ignored => exact Or.inl ⟨rfl, rfl⟩
    | terminalRequested outcome asked => exact Or.inr ⟨_, _, _, outcome, asked, rfl⟩
    | terminalClosed why => exact why.elim

/-- A step is a move for an operation, after which the desk may ask for a terminal. -/
def Moves (op : Operation) (step : Step) (d : Desk) : Prop :=
  ∃ d₁ acts d₂ more,
    Move op d d₁ acts ∧ Asks (d.greeting? op) d₁ d₂ more ∧ Enacts step d d₂ (acts ++ more)

section

variable {d d₁ : Desk} {op : Operation} {step : Step} {acts : List Act}

theorem Moves.of_move (m : Move op d d₁ acts) (e : Enacts step d d₁ acts) : Moves op step d :=
  ⟨d₁, acts, d₁, [], m, .nothing d₁, by rwa [List.append_nil]⟩

theorem Moves.of_still (quiet : ∀ t, d.sessions.contains t → op.outputOf t = [])
    (nothing : ∀ bus, step { d with bus } = ({ d with bus }, [])) : Moves op step d :=
  .of_move (.ignored quiet) (.still nothing)

/-! ### Asking for a terminal -/

theorem enacts_requestTerminal {host : HostId} {slot : SlotId} {roster : Roster}
    (outcome : d.roster.request host = (some slot, roster)) :
    Enacts (requestTerminal host) d { d with roster }
      (.send (.openTerminal host) :: ({ d with roster } : Desk).hostActs .slotsChanged host) := by
  have steps := (enacts_ask (.openTerminal host) { d with roster }).pair
    (enacts_showSlots host { d with roster })
  exact steps.of_eq rfl fun bus => by simp [requestTerminal, outcome]

theorem enacts_requestTerminal_none {host : HostId} {roster : Roster}
    (outcome : d.roster.request host = (none, roster)) : Enacts (requestTerminal host) d d [] :=
  .still fun bus => by simp [requestTerminal, outcome]

theorem requestTerminal_moves (host : HostId) (d : Desk) :
    Moves (.intent (.addTerminal host)) (requestTerminal host) d := by
  match outcome : d.roster.request host with
  | (none, roster) => exact .of_move (.ignored fun _ _ => rfl) (enacts_requestTerminal_none outcome)
  | (some slot, roster) =>
    exact .of_move (.terminalRequested outcome rfl) (enacts_requestTerminal outcome)

theorem ask_if (p : Prop) [Decidable p] (host : HostId) (d : Desk) :
    ∃ d' acts, Asks (some (host, d.roster)) d d' acts ∧
      Enacts (perform · (if p then [requestTerminal host] else [])) d d' acts := by
  by_cases holds : p
  · match outcome : d.roster.request host with
    | (none, roster) =>
      exact ⟨d, [], .nothing d, by simpa [holds] using (enacts_requestTerminal_none outcome).single⟩
    | (some slot, roster) =>
      exact ⟨_, _, .terminal (.terminalRequested outcome rfl) rfl,
        by simpa [holds] using (enacts_requestTerminal outcome).single⟩
  · exact ⟨d, [], .nothing d, by simpa [holds] using Enacts.nil d⟩

/-! ### Reports -/

theorem enacts_hostConnected {info : HostInfo} {roster : Roster}
    (outcome : d.roster.addHost info = (true, roster)) (grown : d₁ = { d with roster }) :
    ∃ d₂ more, Asks (some (info.id, roster)) d₁ d₂ more ∧ Enacts (hostConnected info) d d₂
      (d₁.hostActs .hostAdded info.id ++
        (if roster.current ≠ d.roster.current
          then [.publish .server (.hostSelected roster.current)] else []) ++ more) := by
  subst grown
  let d₁ : Desk := { d with roster }
  obtain ⟨d₂, more, asks, last⟩ :=
    ask_if (d.settings.autoOpen ∧ roster.hosts.length = 1) info.id d₁
  have first := (enacts_tellOf .hostAdded info.id d₁).single.append
    ((enacts_publishHost .server d₁).single.ite_same (roster.current ≠ d.roster.current))
  refine ⟨d₂, more, asks, (first.append last).of_eq rfl fun bus => ?_⟩
  simp [hostConnected, outcome, d₁]

theorem hostConnected_moves (info : HostInfo) (d : Desk) :
    Moves (.report (.hostConnected info)) (hostConnected info) d := by
  match outcome : d.roster.addHost info with
  | (false, roster) => exact .of_still (fun _ _ => rfl) fun bus => by simp [hostConnected, outcome]
  | (true, roster) =>
    obtain ⟨d₂, more, asks, e⟩ := enacts_hostConnected outcome rfl
    have greeted : d.greeting? (.report (.hostConnected info)) = some (info.id, roster) := by
      rw [greeting?, outcome]
    exact ⟨_, _, d₂, more, .hostConnected outcome rfl, greeted ▸ asks, e⟩

theorem enacts_hostDisconnected {host : HostId} {removed : RemovedHost} {roster : Roster}
    (outcome : d.roster.removeHost host = (some removed, roster))
    (left : d₁ = { d with roster }) :
    Enacts (hostDisconnected host) d (removed.host.terminals.foldl forgotten d₁.refreshed)
      (d₁.refreshActs .server ++ removed.host.terminals.flatMap (endActs host) ++
        [.cue (.hostRemoved host)] ++
        if removed.wasCurrent then [.publish .server (.hostSelected roster.current)] else []) := by
  let d₂ := removed.host.terminals.foldl forgotten d₁.refreshed
  have same : d₂.roster = roster := by
    simp only [d₂, foldl_forgotten, left]
    rfl
  have first := (enacts_refreshView .server d₁).single.append
    (enacts_forgetAll host removed.host.terminals d₁.refreshed)
  have last := (enacts_tell (.hostRemoved host) d₂).single.append
    ((enacts_publishHost .server d₂).single.ite_same removed.wasCurrent)
  rw [same] at last
  subst left
  rw [List.append_assoc]
  refine (first.append last).of_eq rfl fun bus => ?_
  simp [hostDisconnected, outcome]

theorem hostDisconnected_moves (host : HostId) (d : Desk) :
    Moves (.report (.hostDisconnected host)) (hostDisconnected host) d := by
  match outcome : d.roster.removeHost host with
  | (none, roster) =>
    exact .of_still (fun _ _ => rfl) fun bus => by simp [hostDisconnected, outcome]
  | (some removed, roster) =>
    exact .of_move (.hostDisconnected outcome rfl) (enacts_hostDisconnected outcome rfl)

theorem enacts_terminalRefused {host : HostId} {t : TerminalId} {roster : Roster}
    (fresh : d.sessions.contains t = false)
    (full : d.roster.attach host t = (.atCapacity, roster)) :
    Enacts (terminalAdded host t) d d [.send (.closeTerminal t)] := by
  refine (enacts_ask (.closeTerminal t) d).single.of_eq rfl fun bus => ?_
  simp [terminalAdded, fresh, full]

theorem enacts_terminalAdded {host : HostId} {t : TerminalId} {slot : SlotId}
    {requested selected : Bool} {roster : Roster} (fresh : d.sessions.contains t = false)
    (outcome : d.roster.attach host t = (.attached slot requested selected, roster))
    (grown : d₁ = { d with roster, sessions := d.sessions.create t host }) :
    Enacts (terminalAdded host t) d (if selected then d₁.refreshed else d₁)
      ([.publish .server (.terminalAdded host t)] ++ d₁.hostActs .slotsChanged host ++
        (if requested ∨ roster.current ≠ d.roster.current
          then [.publish .server (.hostSelected roster.current)] else []) ++
        (if selected then d₁.refreshActs .server else [])) := by
  have first := (enacts_publish .server (.terminalAdded host t) d₁).pair
    (enacts_showSlots host d₁)
  have second := first.append ((enacts_publishHost .server d₁).single.ite_same
    (requested ∨ roster.current ≠ d.roster.current))
  have steps := second.append ((enacts_refreshView .server d₁).single.ite selected)
  subst grown
  refine steps.of_eq rfl fun bus => ?_
  simp [terminalAdded, fresh, outcome]

theorem terminalAdded_moves (host : HostId) (t : TerminalId) (d : Desk) :
    Moves (.report (.terminalAdded host t)) (terminalAdded host t) d := by
  cases fresh : d.sessions.contains t with
  | true => exact .of_still (fun _ _ => rfl) fun bus => by simp [terminalAdded, fresh]
  | false =>
    match outcome : d.roster.attach host t with
    | (.unknownHost, roster) | (.duplicate, roster) =>
      exact .of_still (fun _ _ => rfl) fun bus => by simp [terminalAdded, fresh, outcome]
    | (.atCapacity, roster) =>
      exact .of_move (.terminalRefused fresh outcome) (enacts_terminalRefused fresh outcome)
    | (.attached slot requested selected, roster) =>
      exact .of_move (.terminalAdded fresh outcome rfl) (enacts_terminalAdded fresh outcome rfl)

theorem terminalOutput_moves (t : TerminalId) (output : Payload) (d : Desk) :
    Moves (.report (.terminalOutput t output)) (terminalOutput t output.bytes) d := by
  cases live : d.sessions.contains t with
  | false =>
    refine .of_still (fun u there => ?_) fun bus => by simp [terminalOutput, live]
    have other : t ≠ u := by
      rintro rfl
      simp [live] at there
    simp [Operation.outputOf, other]
  | true =>
    refine .of_move (.terminalOutput live) ⟨rfl, fun bus => ?_⟩
    by_cases presented : d.presented = some t
    · have there : ({ d with bus } : Desk).presented = some t := presented
      simp [terminalOutput, live, presented, there, Bus.relayAll, Bus.relay]
    · have there : ({ d with bus } : Desk).presented ≠ some t := presented
      simp [terminalOutput, live, presented, there, Bus.relayAll]

theorem enacts_closeSlot {host : HostId} {slot : SlotId} {closed : ClosedSlot} {roster : Roster}
    (origin : Origin) (outcome : d.roster.closeSlot host slot = (some closed, roster))
    (left : d₁ = { d with roster }) :
    Enacts (closeSlot origin host slot) d (d₁.refreshed.forgotten closed.terminal)
      (d₁.refreshActs origin ++ d₁.closeActs origin host closed.terminal) := by
  let d₂ := d₁.refreshed.forgotten closed.terminal
  have first := (enacts_refreshView origin d₁).single.append
    ((enacts_ask (.closeTerminal closed.terminal) d₁.refreshed).single.ite_same
      (origin = .presenter))
  have last := (enacts_forget closed.terminal d₁.refreshed).cons
    ((enacts_publish origin (.terminalClosed host closed.terminal) d₂).pair
      (enacts_showSlots host d₂))
  subst left
  rw [closeActs, List.append_assoc, ← List.append_assoc]
  refine (first.append last).of_eq rfl fun bus => ?_
  simp [closeSlot, outcome]

theorem closeSlot_moves {op : Operation} {origin : Origin} {host : HostId} {slot : SlotId}
    (why : d.Closes host slot op origin) : Moves op (closeSlot origin host slot) d := by
  match outcome : d.roster.closeSlot host slot with
  | (none, roster) =>
    exact .of_still (fun _ _ => why.outputOf) fun bus => by simp [closeSlot, outcome]
  | (some closed, roster) =>
    exact .of_move (.terminalClosed why outcome rfl) (enacts_closeSlot origin outcome rfl)

theorem terminalClosed_moves (named : Option HostId) (t : TerminalId) (d : Desk) :
    Moves (.report (.terminalClosed named t)) (terminalClosed t) d := by
  match located : d.roster.locate? t with
  | none =>
    refine .of_move (.unheldClosed located) ((enacts_forget t d).of_eq rfl fun bus => ?_)
    simp [terminalClosed, located]
  | some (host, slot) =>
    have why : d.Closes host slot (.report (.terminalClosed named t)) .server := located
    obtain ⟨d₁, acts, d₂, more, m, asks, e⟩ := closeSlot_moves why
    refine ⟨d₁, acts, d₂, more, m, asks, e.of_eq rfl fun bus => ?_⟩
    simp [terminalClosed, located]

theorem directoryListing_moves (t : TerminalId) (path : String) (files : List ListedFile)
    (d : Desk) :
    Moves (.report (.directoryListing t path files)) (directoryListing t path files) d := by
  refine .of_move (.directoryListing rfl) ⟨rfl, fun bus => ?_⟩
  cases found : (d.sessions.list t path files).get? t <;>
    simp [directoryListing, found, Bus.relayAll, Bus.relay]

theorem handleReport_moves (r : Report) (d : Desk) : Moves (.report r) (handleReport r) d := by
  cases r with
  | hostConnected info => exact hostConnected_moves info d
  | hostDisconnected host => exact hostDisconnected_moves host d
  | terminalAdded host t => exact terminalAdded_moves host t d
  | terminalOutput t output => exact terminalOutput_moves t output d
  | terminalClosed named t => exact terminalClosed_moves named t d
  | directoryListing t path files => exact directoryListing_moves t path files d

/-! ### Intents and commands -/

theorem enacts_hostSelected {host : HostId} {roster : Roster}
    (outcome : d.roster.selectHost host = (true, roster)) (moved : d₁ = { d with roster }) :
    ∃ d₂ more, Asks (some (host, roster)) d₁.refreshed d₂ more ∧ Enacts (selectHost host) d d₂
      ((if d.roster.current ≠ some host
          then [.publish .presenter (.hostSelected roster.current)] else []) ++
        d₁.refreshActs .presenter ++ more) := by
  subst moved
  let d₁ : Desk := { d with roster }
  obtain ⟨d₂, more, asks, last⟩ :=
    ask_if (d.settings.autoOpen ∧ (roster.host? host).any (·.sessionCount = 0)) host d₁.refreshed
  have first := ((enacts_publishHost .presenter d₁).single.ite_same
    (d.roster.current ≠ some host)).append (enacts_refreshView .presenter d₁).single
  refine ⟨d₂, more, asks, (first.append last).of_eq rfl fun bus => ?_⟩
  simp [selectHost, outcome, d₁]

theorem selectHost_moves (host : HostId) (d : Desk) :
    Moves (.intent (.selectHost host)) (selectHost host) d := by
  match outcome : d.roster.selectHost host with
  | (false, roster) => exact .of_still (fun _ _ => rfl) fun bus => by simp [selectHost, outcome]
  | (true, roster) =>
    obtain ⟨d₂, more, asks, e⟩ := enacts_hostSelected outcome rfl
    have greeted : d.greeting? (.intent (.selectHost host)) = some (host, roster) := by
      rw [greeting?, outcome]
    exact ⟨_, _, d₂, more, .hostSelected outcome rfl, greeted ▸ asks, e⟩

theorem enacts_showListing (t : TerminalId) (d : Desk) :
    Enacts (showListing t) d d (d.listingActs t) := by
  refine ⟨rfl, fun bus => ?_⟩
  cases found : d.sessions.get? t with
  | none => simp [showListing, listingActs, found, Bus.relayAll]
  | some s =>
    cases listed : s.listing <;>
      simp [showListing, listingActs, found, listed, Bus.relayAll, Bus.relay]

theorem enacts_slotSelected {host : HostId} {slot : SlotId} {t : TerminalId} {roster : Roster}
    (outcome : d.roster.selectSlot host slot = (.selected t, roster))
    (moved : d₁ = { d with roster }) :
    Enacts (selectSlot host slot) d d₁.refreshed
      (d₁.hostActs .slotsChanged host ++ [.publish .presenter (.hostSelected roster.current)] ++
        d₁.refreshActs .presenter) := by
  have steps := ((enacts_showSlots host d₁).pair (enacts_publishHost .presenter d₁)).append
    (enacts_refreshView .presenter d₁).single
  subst moved
  refine steps.of_eq rfl fun bus => ?_
  simp [selectSlot, outcome]

theorem enacts_slotToggled {host : HostId} {slot : SlotId} {t : TerminalId} {face : Face}
    {roster : Roster} (outcome : d.roster.selectSlot host slot = (.toggled t face, roster))
    (flipped : d₁ = { d with roster }) :
    Enacts (selectSlot host slot) d d₁
      (d₁.hostActs .slotsChanged host ++ [.cue (.fileBrowser t (face = Face.files))] ++
        (if face = Face.files then d₁.listingActs t else [])) := by
  have steps := ((enacts_showSlots host d₁).pair
    (enacts_tell (.fileBrowser t (face = Face.files)) d₁)).append
      ((enacts_showListing t d₁).single.ite_same (face = Face.files))
  subst flipped
  refine steps.of_eq rfl fun bus => ?_
  simp [selectSlot, outcome]

theorem selectSlot_moves (host : HostId) (slot : SlotId) (d : Desk) :
    Moves (.intent (.selectSlot host slot)) (selectSlot host slot) d := by
  match outcome : d.roster.selectSlot host slot with
  | (.ignored, roster) => exact .of_still (fun _ _ => rfl) fun bus => by simp [selectSlot, outcome]
  | (.selected t, roster) =>
    exact .of_move (.slotSelected outcome rfl) (enacts_slotSelected outcome rfl)
  | (.toggled t face, roster) =>
    exact .of_move (.slotToggled outcome rfl) (enacts_slotToggled outcome rfl)

theorem key_moves (t : TerminalId) (text : String) (d : Desk) :
    Moves (.intent (.key t text)) (key t text) d := by
  cases live : d.sessions.contains t with
  | false => exact .of_still (fun _ _ => rfl) fun bus => by simp [key, live]
  | true =>
    refine .of_move (.typed live) ((enacts_ask (.key t text) d).of_eq rfl fun bus => ?_)
    simp [key, live, ask]

theorem resize_moves (t : TerminalId) (size : Size) (d : Desk) :
    Moves (.intent (.resize t size)) (resize t size) d := by
  by_cases due : d.sessions.contains t ∧ d.sizes.get? t ≠ some size
  · refine .of_move (.resized due.1 due.2) ⟨rfl, fun bus => ?_⟩
    simp [resize, due.1, due.2, Bus.relayAll, Bus.relay]
  · refine .of_still (fun _ _ => rfl) fun bus => ?_
    have there : ¬ (({ d with bus } : Desk).sessions.contains t ∧
      ({ d with bus } : Desk).sizes.get? t ≠ some size) := due
    simp only [resize, there, if_false]

theorem openEntry_moves (t : TerminalId) (index : Nat) (d : Desk) :
    Moves (.intent (.openEntry t index)) (openEntry t index) d := by
  match leads : (d.sessions.get? t).bind (·.navigate? index) with
  | none => exact .of_still (fun _ _ => rfl) fun bus => by simp [openEntry, leads]
  | some (.list path) =>
    refine .of_move (.directoryOpened leads) ((enacts_ask _ d).of_eq rfl fun bus => ?_)
    simp [openEntry, leads, ask]
  | some (.download path) =>
    refine .of_move (.fileOpened leads) ((enacts_tell _ d).of_eq rfl fun bus => ?_)
    simp [openEntry, leads, tell]

theorem listDirectory_moves (t : TerminalId) (path : String) (d : Desk) :
    Moves (.intent (.listDirectory t path)) (listDirectory t path) d := by
  cases live : d.sessions.get? t with
  | none => exact .of_still (fun _ _ => rfl) fun bus => by simp [listDirectory, live]
  | some s =>
    refine .of_move (.directoryAsked live) ((enacts_ask _ d).of_eq rfl fun bus => ?_)
    simp [listDirectory, live, ask]

theorem handleIntent_moves (i : Intent) (d : Desk) : Moves (.intent i) (handleIntent i) d := by
  cases i with
  | selectHost host => exact selectHost_moves host d
  | addTerminal host => exact requestTerminal_moves host d
  | selectSlot host slot => exact selectSlot_moves host slot d
  | closeSlot host slot => exact closeSlot_moves ⟨rfl, rfl⟩
  | key t text => exact key_moves t text d
  | resize t size => exact resize_moves t size d
  | openEntry t index => exact openEntry_moves t index d
  | listDirectory t path => exact listDirectory_moves t path d

/-- An operation on a desk, a command that stands for an intent there being that intent. -/
def meaning (d : Desk) : Operation → Operation
  | .command c =>
    match d.resolve c with
    | .ok (.intent i) => .intent i
    | _ => .command c
  | op => op

theorem handleCommand_moves (c : Command) (d : Desk) :
    Moves (d.meaning (.command c)) (handleCommand c) d := by
  match stands : d.resolve c with
  | .ok (.intent i) =>
    obtain ⟨d₁, acts, d₂, more, m, asks, e⟩ := handleIntent_moves i d
    simp only [meaning, stands]
    refine ⟨d₁, acts, d₂, more, m, asks, e.of_eq rfl fun bus => ?_⟩
    have there : ({ d with bus } : Desk).resolve c = .ok (.intent i) := stands
    simp only [handleCommand, there]
  | .ok (.reply text) =>
    simp only [meaning, stands]
    refine .of_move (.noticed d c text) ((enacts_tell _ d).of_eq rfl fun bus => ?_)
    have there : ({ d with bus } : Desk).resolve c = .ok (.reply text) := stands
    simp only [handleCommand, there]
  | .error e =>
    simp only [meaning, stands]
    refine .of_move (.noticed d c e.message) ((enacts_tell _ d).of_eq rfl fun bus => ?_)
    have there : ({ d with bus } : Desk).resolve c = .error e := stands
    simp only [handleCommand, there]

/-- Every operation is a move, after which the desk may ask for a terminal. -/
theorem handle_moves (op : Operation) (d : Desk) : Moves (d.meaning op) (handle op) d := by
  cases op with
  | report r => exact handleReport_moves r d
  | intent i => exact handleIntent_moves i d
  | command c => exact handleCommand_moves c d

end

end Desk

end Switchboard
