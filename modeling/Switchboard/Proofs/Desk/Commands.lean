import Switchboard.Proofs.Console.Description
import Switchboard.Proofs.Desk.Miss
import Switchboard.Proofs.Desk.Succession

/-!
# Commands act on what is shown

A command names slots by the numbers that the description of the hosts shows, and otherwise the
terminal that is presented or the host that is current. `Meant` says what a command is to do;
`fulfils_of_resolve`: on a coherent desk the intent that it stands for does this.
-/

namespace Switchboard

theorem Slot.state_of_terminal? {s : Slot} {t : TerminalId} (bound : s.terminal? = some t) :
    ∃ face, s.state = .bound t face := by
  unfold terminal? at bound
  split at bound
  · rename_i face state
    exact ⟨face, Option.some.inj bound ▸ state⟩
  · cases bound
  · cases bound

namespace Desk

variable {d after : Desk} {i : Intent} {n : UInt64} {h : Host} {s : Slot} {t : TerminalId}
  {face : Face} {es : List Effect} {session : Session}

/-! ### What commands are to do -/

/-- A terminal is asked for on a host, unless the host waits for one or has no room for one. -/
def AsksOnce (d : Desk) (h : Host) (after : Desk) (es : List Effect) : Prop :=
  if h.isActivating ∨ d.roster.cap ≤ h.sessionCount then after = d ∧ es = []
  else Effect.requests es = [.openTerminal h.id] ∧ ∃ s ∈ h.slots, s.state = .idle ∧
    after = { d with roster := d.roster.put (h.setState s.id .activating) }

/-- The terminal of a slot is presented; if it was already, the slot shows its other face. -/
def Reveals (d : Desk) (h : Host) (s : Slot) (after : Desk) : Prop :=
  ∃ t face, s.state = .bound t face ∧ after.presented = some t ∧ after.sessions = d.sessions ∧
    after.roster = d.roster.put (if d.presented = some t
      then h.setState s.id (.bound t face.flip) else { h with selected := some s.id })

/-- A terminal is closed, and the server is told once; the other bound slots are left alone. -/
def Removes (d : Desk) (s : Slot) (t : TerminalId) (after : Desk) (es : List Effect) : Prop :=
  s.terminal? = some t ∧ after.sessions = d.sessions.destroy t ∧ after.roster.Lacks s.id ∧
    d.roster.Spares after.roster s.id ∧ Effect.requests es = [.closeTerminal t]

/-- A session is live, and its terminal is presented. -/
structure Presents (d : Desk) (s : Session) : Prop where
  presented : d.presented = some s.id
  live : d.sessions.get? s.id = some s

/-- What a command is to do, if it stands for an intent. -/
def Meant (d after : Desk) (es : List Effect) : Command → Prop
  | .hosts => False
  | .host id => (d.roster.host? id).isSome ∧ after.roster.current = some id
  | .add => ∃ h, d.roster.currentHost? = some h ∧ d.AsksOnce h after es
  | .slot n => ∃ h s, d.Numbers n.toNat h s ∧
      if s.isFree then d.AsksOnce h after es else d.Reveals h s after
  | .close (some n) => ∃ h s t, d.Numbers n.toNat h s ∧ d.Removes s t after es
  | .close none => ∃ h t, ∃ s ∈ h.slots, d.roster.currentHost? = some h ∧
      d.presented = some t ∧ d.Removes s t after es
  | .files => ∃ h t face, ∃ s ∈ h.slots, d.roster.currentHost? = some h ∧
      d.presented = some t ∧ s.state = .bound t face ∧
      after = { d with roster := d.roster.put (h.setState s.id (.bound t face.flip)) }
  | .ls path => ∃ s, d.Presents s ∧ after = d ∧
      es = [.send (.file s.id (directoryOf s path) true)]
  | .openEntry name => ∃ s l e, d.Presents s ∧ s.listing = some l ∧
      l.entries.find? (·.name = name) = some e ∧ after = d ∧
      es = match e.navigation with
        | .list path => [.send (.file s.id path true)]
        | .download path => [.cue (.download s.id path)]
  | .resize size => ∃ s, d.Presents s ∧ after = { d with sizes := after.sizes } ∧
      after.sizes.get? s.id = some size ∧
      es = if d.sizes.get? s.id = some size then [] else [.send (.resize s.id size)]
  | .keys text => ∃ s, d.Presents s ∧ after = d ∧ es = [.send (.key s.id text)]

/-- What an intent names is there: the host is connected, the slot is bound, and the terminal is
live and presented. -/
structure Targets (d : Desk) (i : Intent) : Prop where
  host : ∀ host, (Operation.intent i).host? = some host → (d.roster.host? host).isSome
  slot : ∀ host slot, (Operation.intent i).slot? = some (host, slot) →
    (d.roster.terminalAt? host slot).isSome
  terminal : ∀ t, (Operation.intent i).terminal? = some t → ∃ s, s.id = t ∧ d.Presents s

/-! ### What intents do -/

theorem presented_eq (c : d.Coherent) (current : d.roster.currentHost? = some h) :
    d.presented = h.active? := by
  rw [presented, c.view, Roster.active?, current, Option.bind_some]

theorem presented_iff (c : d.Coherent) (current : d.roster.currentHost? = some h)
    (mem : s ∈ h.slots) (bound : s.terminal? = some t) :
    d.presented = some t ↔ h.selected = some s.id := by
  obtain ⟨_, _, found⟩ := Option.bind_eq_some_iff.mp current
  have tidy := c.wellFormed.tidy_of_host? found
  rw [presented_eq c current]
  constructor
  · intro active
    obtain ⟨s', there, bound'⟩ := Option.bind_eq_some_iff.mp active
    obtain ⟨id, selected, there⟩ := Option.bind_eq_some_iff.mp there
    obtain ⟨mem', rfl⟩ := Host.slot?_eq_some there
    rw [selected, tidy.eq_of_terminal? mem' mem bound' bound]
  · intro selected
    rw [Host.active?_of_mem tidy.numbered mem selected, bound]

theorem host?_of_currentHost? (current : d.roster.currentHost? = some h) :
    d.roster.host? h.id = some h ∧ d.roster.current = some h.id := by
  obtain ⟨id, here, found⟩ := Option.bind_eq_some_iff.mp current
  obtain rfl := Roster.id_of_host? found
  exact ⟨found, here⟩

theorem terminalAt?_of_currentHost? (c : d.Coherent) (current : d.roster.currentHost? = some h)
    (mem : s ∈ h.slots) : d.roster.terminalAt? h.id s.id = s.terminal? := by
  have found := (host?_of_currentHost? current).1
  exact Roster.terminalAt?_of_mem found (c.wellFormed.tidy_of_host? found).numbered mem

theorem asks_once (c : d.Coherent) (current : d.roster.currentHost? = some h) :
    d.AsksOnce h (requestTerminal h.id d).1 (requestTerminal h.id d).2 := by
  have found := (host?_of_currentHost? current).1
  unfold AsksOnce
  split
  · rename_i busy
    simp [requestTerminal, Roster.request_of_busy c.wellFormed found busy]
  · rename_i ready
    obtain ⟨quiet, room⟩ := not_or.mp ready
    have case := d.roster.request_cases h.id
    generalize outcome : d.roster.request h.id = result at case
    cases case with
    | unknownHost unknown => simp [unknown] at found
    | refused h' found' why =>
      obtain rfl := Option.some.inj (found'.symm.trans found)
      obtain ⟨s, mem, idle⟩ := (c.wellFormed.tidy_of_host? found).exists_idle
        (Bool.eq_false_iff.mpr quiet) (Nat.lt_of_not_le room)
      exact (why.resolve_left quiet s mem idle).elim
    | accepted h' s found' quiet mem idle =>
      obtain rfl := Option.some.inj (found'.symm.trans found)
      refine ⟨?_, s, mem, idle, ?_⟩
      · rw [(enacts_requestTerminal outcome).requests]
        simp
      · simp only [requestTerminal, outcome]
        rfl

theorem reveals_of_bound (c : d.Coherent) (current : d.roster.currentHost? = some h)
    (mem : s ∈ h.slots) (bound : s.state = .bound t face) :
    d.Reveals h s (handle (.intent (.selectSlot h.id s.id)) d).1 := by
  obtain ⟨found, here⟩ := host?_of_currentHost? current
  have held : s.terminal? = some t := by simp [Slot.terminal?, bound]
  have terminal := (terminalAt?_of_currentHost? c current mem).trans held
  obtain ⟨presented, sessions, -, -⟩ := (reaches_of_bound c terminal).clicked
  obtain ⟨d', acts, e, roster, -, -⟩ := click_of_bound c terminal
  have clicked : (handle (.intent (.selectSlot h.id s.id)) d).1.roster = d'.roster := by rw [e.eq]
  refine ⟨t, face, bound, presented, sessions, ?_⟩
  rw [clicked, roster]
  have numbered := (c.wellFormed.tidy_of_host? found).numbered
  have case := d.roster.selectSlot_cases h.id s.id
  generalize d.roster.selectSlot h.id s.id = result at case ⊢
  cases case with
  | unknownHost unknown => simp [unknown] at found
  | unbound h' found' unbound =>
    obtain rfl := Option.some.inj (found'.symm.trans found)
    simp [Host.slot?_of_mem numbered mem, held] at unbound
  | toggled h' s' t' face' found' mem' same bound' current' selected =>
    obtain rfl := Option.some.inj (found'.symm.trans found)
    obtain rfl := List.inj_on_of_nodup_map numbered mem' mem same
    obtain ⟨rfl, rfl⟩ := SlotState.bound.inj (bound'.symm.trans bound)
    rw [if_pos ((presented_iff c current mem held).mpr selected)]
  | selected h' s' t' found' mem' same bound' other =>
    obtain rfl := Option.some.inj (found'.symm.trans found)
    obtain rfl := List.inj_on_of_nodup_map numbered mem' mem same
    have apart : ¬ d.presented = some t := fun shown =>
      other ⟨here, (presented_iff c current mem held).mp shown⟩
    rw [if_neg apart, ← here]
    rfl

theorem current_asks {acts : List Act} {greeted : Option (HostId × Roster)}
    (a : Asks greeted d after acts) :
    after.roster.current = d.roster.current := by
  rcases asks_cases a with ⟨rfl, -⟩ | ⟨host, slot, roster, outcome, rfl, -⟩
  · rfl
  · rw [← d.roster.current_request, outcome]

theorem current_of_selectHost {id : HostId} (known : (d.roster.host? id).isSome) :
    (handle (.intent (.selectHost id)) d).1.roster.current = some id := by
  rcases d.roster.selectHost_cases id with ⟨unknown, -⟩ | ⟨-, outcome⟩
  · simp [unknown] at known
  · obtain ⟨d₂, more, asks, e⟩ := enacts_hostSelected outcome rfl
    show (selectHost id d).1.roster.current = some id
    rw [e.eq]
    exact current_asks asks

theorem fst_showListing (t : TerminalId) (d : Desk) : (showListing t d).1 = d := by
  unfold showListing
  split
  · rfl
  · split <;> rfl

theorem removes_of_bound (c : d.Coherent) (current : d.roster.currentHost? = some h)
    (mem : s ∈ h.slots) (bound : s.terminal? = some t) :
    let after := handle (.intent (.closeSlot h.id s.id)) d
    d.Removes s t after.1 after.2 := by
  have terminal := (terminalAt?_of_currentHost? c current mem).trans bound
  exact ⟨bound, (reaches_of_bound c terminal).closed⟩

/-! ### What commands stand for -/

theorem numbers_of_nth? (current : d.roster.currentHost? = some h) (found : h.nth? n = some s) :
    d.Numbers n.toNat h s := by
  unfold Host.nth? at found
  split at found
  · cases found
  · rename_i other
    refine ⟨current, Nat.pos_of_ne_zero fun zero => other ?_, found⟩
    exact UInt64.toNat_inj.mp zero

theorem presents_of_presented (c : d.Coherent) (presented : d.presented = some t) :
    ∃ s, s.id = t ∧ d.Presents s := by
  obtain ⟨s, live⟩ := Option.isSome_iff_exists.mp (c.contains_of_active? (c.view.symm.trans presented))
  obtain rfl := Sessions.id_of_get? live
  exact ⟨s, rfl, presented, live⟩

theorem of_currentHost {α : Type} {f : Host → Except ResolveError α} {a : α}
    (stands : (d.currentHost >>= f) = .ok a) : ∃ h, d.roster.currentHost? = some h ∧ f h = .ok a := by
  cases current : d.roster.currentHost? with
  | none => simp [currentHost, current, bind, Except.bind] at stands
  | some h => exact ⟨h, rfl, by simpa [currentHost, current, bind, Except.bind] using stands⟩

theorem of_activeTerminal {α : Type} {f : TerminalId → Except ResolveError α} {a : α}
    (stands : (d.activeTerminal >>= f) = .ok a) : ∃ t, d.presented = some t ∧ f t = .ok a := by
  cases presented : d.presented with
  | none => simp [activeTerminal, presented, bind, Except.bind] at stands
  | some t => exact ⟨t, rfl, by simpa [activeTerminal, presented, bind, Except.bind] using stands⟩

/-! ### What is named is there -/

theorem targets_selectHost {id : HostId} (known : (d.roster.host? id).isSome) :
    d.Targets (.selectHost id) where
  host _ named := Option.some.inj named ▸ known
  slot _ _ named := by cases named
  terminal _ named := by cases named

theorem targets_addTerminal (current : d.roster.currentHost? = some h) :
    d.Targets (.addTerminal h.id) where
  host _ named := by
    rw [← Option.some.inj named, (host?_of_currentHost? current).1]
    rfl
  slot _ _ named := by cases named
  terminal _ named := by cases named

theorem targets_of_slot {host : HostId} {slot : SlotId}
    (named : (Operation.intent i).slot? = some (host, slot))
    (bound : d.roster.terminalAt? host slot = some t) : d.Targets i := by
  cases i with
  | selectSlot | closeSlot =>
    cases named
    refine ⟨fun _ named => (by cases named), fun _ _ named => ?_, fun _ named => (by cases named)⟩
    cases named
    rw [bound]
    rfl
  | _ => cases named

theorem Presents.targets (p : d.Presents session)
    (named : (Operation.intent i).terminal? = some session.id) : d.Targets i := by
  cases i with
  | key | resize | openEntry | listDirectory =>
    refine ⟨fun _ named => (by cases named), fun _ _ named => (by cases named), fun t other => ?_⟩
    exact ⟨session, Option.some.inj (named.symm.trans other), p⟩
  | _ => cases named

/-! ### Every command -/

/-- A command on a desk names what is there, and does as it is meant. -/
def Fulfils (d : Desk) (c : Command) (i : Intent) : Prop :=
  d.Targets i ∧ d.Meant (handleIntent i d).1 (handleIntent i d).2 c

theorem fulfils_host {id : HostId} (stands : d.resolve (.host id) = .ok (.intent i)) :
    d.Fulfils (.host id) i := by
  simp only [resolve] at stands
  split at stands
  · rename_i h found
    cases stands
    have known : (d.roster.host? id).isSome := by simp [found]
    exact ⟨targets_selectHost known, known, current_of_selectHost known⟩
  · cases stands

theorem fulfils_add (c : d.Coherent) (stands : d.resolve .add = .ok (.intent i)) :
    d.Fulfils .add i := by
  simp only [resolve] at stands
  obtain ⟨h, current, stands⟩ := of_currentHost stands
  cases stands
  exact ⟨targets_addTerminal current, h, current, asks_once c current⟩

theorem fulfils_slot (c : d.Coherent) (stands : d.resolve (.slot n) = .ok (.intent i)) :
    d.Fulfils (.slot n) i := by
  simp only [resolve] at stands
  obtain ⟨h, current, stands⟩ := of_currentHost stands
  split at stands
  · cases stands
  · rename_i s nth
    have numbers := numbers_of_nth? current nth
    split at stands
    · rename_i free
      cases stands
      refine ⟨targets_addTerminal current, h, s, numbers, ?_⟩
      rw [if_pos free]
      exact asks_once c current
    · rename_i busy
      cases stands
      obtain ⟨t, bound⟩ := Slot.isFree_eq_false_iff.mp (Bool.eq_false_iff.mpr busy)
      have terminal := (terminalAt?_of_currentHost? c current numbers.mem).trans bound
      refine ⟨targets_of_slot rfl terminal, h, s, numbers, ?_⟩
      rw [if_neg busy]
      exact reveals_of_bound c current numbers.mem (Slot.state_of_terminal? bound).choose_spec

theorem fulfils_close {which : Option UInt64} (c : d.Coherent)
    (stands : d.resolve (.close which) = .ok (.intent i)) : d.Fulfils (.close which) i := by
  simp only [resolve] at stands
  obtain ⟨h, current, stands⟩ := of_currentHost stands
  split at stands
  · cases stands
  · rename_i s chosen
    cases stands
    obtain ⟨there, busy⟩ := Option.filter_eq_some_iff.mp chosen
    obtain ⟨t, bound⟩ := Slot.isFree_eq_false_iff.mp (by simpa using busy)
    cases which with
    | some n =>
      have numbers := numbers_of_nth? current there
      have terminal := (terminalAt?_of_currentHost? c current numbers.mem).trans bound
      exact ⟨targets_of_slot rfl terminal, h, s, t, numbers,
        removes_of_bound c current numbers.mem bound⟩
    | none =>
      obtain ⟨id, selected, found⟩ := Option.bind_eq_some_iff.mp there
      obtain ⟨mem, rfl⟩ := Host.slot?_eq_some found
      have terminal := (terminalAt?_of_currentHost? c current mem).trans bound
      exact ⟨targets_of_slot rfl terminal, h, t, s, mem, current,
        (presented_iff c current mem bound).mpr selected, removes_of_bound c current mem bound⟩

theorem fulfils_files (c : d.Coherent) (stands : d.resolve .files = .ok (.intent i)) :
    d.Fulfils .files i := by
  simp only [resolve] at stands
  obtain ⟨h, current, stands⟩ := of_currentHost stands
  split at stands
  · cases stands
  · rename_i slot selected
    cases stands
    obtain ⟨found, here⟩ := host?_of_currentHost? current
    have tidy := c.wellFormed.tidy_of_host? found
    obtain ⟨s, mem, rfl, busy⟩ := tidy.selected_bound slot selected
    obtain ⟨t, bound⟩ := Slot.isFree_eq_false_iff.mp busy
    obtain ⟨face, state⟩ := Slot.state_of_terminal? bound
    have terminal := (terminalAt?_of_currentHost? c current mem).trans bound
    refine ⟨targets_of_slot rfl terminal, h, t, face, s, mem, current,
      (presented_iff c current mem bound).mpr selected, state, ?_⟩
    have outcome : d.roster.selectSlot h.id s.id =
        (.toggled t face.flip, d.roster.put (h.setState s.id (.bound t face.flip))) := by
      simp [Roster.selectSlot, found, Host.slot?_of_mem tidy.numbered mem, state, here, selected]
    show (selectSlot h.id s.id d).1 = _
    simp only [selectSlot, outcome, perform_append]
    split
    · exact fst_showListing t _
    · rfl

theorem fulfils_ls {path : String} (c : d.Coherent)
    (stands : d.resolve (.ls path) = .ok (.intent i)) : d.Fulfils (.ls path) i := by
  simp only [resolve] at stands
  obtain ⟨t, presented, stands⟩ := of_activeTerminal stands
  cases stands
  obtain ⟨s, rfl, p⟩ := presents_of_presented c presented
  refine ⟨p.targets rfl, s, p, ?_⟩
  simp [handleIntent, listDirectory, p.live]

theorem fulfils_openEntry {name : String} (c : d.Coherent)
    (stands : d.resolve (.openEntry name) = .ok (.intent i)) : d.Fulfils (.openEntry name) i := by
  simp only [resolve] at stands
  obtain ⟨t, presented, stands⟩ := of_activeTerminal stands
  obtain ⟨s, rfl, p⟩ := presents_of_presented c presented
  split at stands
  · cases stands
  · rename_i index there
    cases stands
    rw [p.live, Option.bind_some] at there
    obtain ⟨l, listed, found⟩ := Option.bind_eq_some_iff.mp there
    obtain ⟨small, named, first⟩ := List.findIdx?_eq_some_iff_getElem.mp found
    have entry : l.entries.find? (·.name = name) = some l.entries[index] := by
      refine List.find?_eq_some_iff_getElem.mpr ⟨?_, index, small, rfl, fun j before => ?_⟩
      · simpa using named
      · simpa using first j before
    refine ⟨p.targets rfl, s, l, l.entries[index], p, listed, entry, ?_⟩
    have leads : (d.sessions.get? s.id).bind (·.navigate? index) =
        some l.entries[index].navigation := by
      simp [p.live, Session.navigate?, listed, Remote.Listing.navigate?,
        List.getElem?_eq_getElem small]
    simp only [handleIntent, openEntry, leads]
    cases l.entries[index].navigation <;> exact ⟨rfl, rfl⟩

theorem fulfils_resize {size : Size} (c : d.Coherent)
    (stands : d.resolve (.resize size) = .ok (.intent i)) : d.Fulfils (.resize size) i := by
  simp only [resolve] at stands
  obtain ⟨t, presented, stands⟩ := of_activeTerminal stands
  cases stands
  obtain ⟨s, rfl, p⟩ := presents_of_presented c presented
  refine ⟨p.targets rfl, s, p, ?_⟩
  have live : d.sessions.contains s.id = true := by simp [Sessions.contains, p.live]
  by_cases asked : d.sizes.get? s.id = some size
  · simp [handleIntent, resize, asked]
  · simp [handleIntent, resize, live, asked]

theorem fulfils_keys {text : String} (c : d.Coherent)
    (stands : d.resolve (.keys text) = .ok (.intent i)) : d.Fulfils (.keys text) i := by
  simp only [resolve] at stands
  obtain ⟨t, presented, stands⟩ := of_activeTerminal stands
  cases stands
  obtain ⟨s, rfl, p⟩ := presents_of_presented c presented
  refine ⟨p.targets rfl, s, p, ?_⟩
  have live : d.sessions.contains s.id = true := by simp [Sessions.contains, p.live]
  simp [handleIntent, key, live]

theorem fulfils_of_resolve {command : Command} (c : d.Coherent)
    (stands : d.resolve command = .ok (.intent i)) : d.Fulfils command i := by
  cases command with
  | hosts => cases stands
  | host id => exact fulfils_host stands
  | add => exact fulfils_add c stands
  | slot n => exact fulfils_slot c stands
  | close which => exact fulfils_close c stands
  | files => exact fulfils_files c stands
  | ls path => exact fulfils_ls c stands
  | openEntry name => exact fulfils_openEntry c stands
  | resize size => exact fulfils_resize c stands
  | keys text => exact fulfils_keys c stands

theorem handleCommand_intent {command : Command} (stands : d.resolve command = .ok (.intent i)) :
    handle (.command command) d = handleIntent i d := by
  show handleCommand command d = _
  simp only [handleCommand, stands]

/-- Commands act on what is shown. Whatever happened before, a command that stands for an intent
names what is there and does as it is meant to: numbers are those that the description of the hosts
shows on the line of the current host, and what names no slot concerns the terminal that is
presented. Only asking for a terminal may come to nothing, where one is asked for already or there
is no room. A command that stands for no intent gives the presenter a text and does nothing else. -/
theorem commands_act_on_what_is_shown (settings : Settings) (turns : List Turn)
    (command : Command) :
    let d := ((start settings).1.takeAll turns).1
    let after := handle (.command command) d
    (∀ i, d.resolve command = .ok (.intent i) →
      after = handle (.intent i) d ∧ d.Targets i ∧ d.Meant after.1 after.2 command) ∧
    (∀ text, d.resolve command = .ok (.reply text) → after = (d, [.cue (.notice text)])) ∧
    (∀ e, d.resolve command = .error e → after = (d, [.cue (.notice e.message)])) ∧
    ∀ n h s, d.Numbers n h s → d.Prints n h s := by
  intro d after
  have c : d.Coherent := ((coherent_start settings).history turns).1
  refine ⟨fun i stands => ?_, fun text stands => ?_, fun e stands => ?_,
    fun n h s numbers => numbers.prints c.wellFormed⟩
  · obtain ⟨targets, meant⟩ := fulfils_of_resolve c stands
    have same : after = handleIntent i d := handleCommand_intent stands
    exact ⟨same, targets, same ▸ meant⟩
  · show handleCommand command d = _
    simp only [handleCommand, stands]
    rfl
  · show handleCommand command d = _
    simp only [handleCommand, stands]
    rfl

theorem commands_act_on_what_is_shown_second_slot :
    let turns : List Turn :=
      [.operation (.report (.hostConnected ⟨⟨1⟩, "", "", ""⟩)),
        .operation (.report (.terminalAdded ⟨1⟩ ⟨7⟩)),
        .operation (.report (.terminalAdded ⟨1⟩ ⟨8⟩))]
    let d := ((start {}).1.takeAll turns).1
    let after := handle (.command (.slot 2)) d
    d.presented = some ⟨7⟩ ∧ d.resolve (.slot 2) = .ok (.intent (.selectSlot ⟨1⟩ ⟨2⟩)) ∧
    after = handle (.intent (.selectSlot ⟨1⟩ ⟨2⟩)) d ∧ after.1.presented = some ⟨8⟩ := by
  intro turns d after
  have stands : d.resolve (.slot 2) = .ok (.intent (.selectSlot ⟨1⟩ ⟨2⟩)) := by rfl
  obtain ⟨same, -, -⟩ := (commands_act_on_what_is_shown {} turns (.slot 2)).1 _ stands
  exact ⟨by decide +kernel, stands, same, by decide +kernel⟩

/-- The free slot of a host that waits for a terminal stands for another one, which is not asked
for. -/
theorem free_slot_asks_once :
    ¬ ∀ (settings : Settings) (turns : List Turn) (n : UInt64) (h : Host) (s : Slot),
      let d := ((start settings).1.takeAll turns).1
      d.Numbers n.toNat h s → s.isFree = true →
      d.resolve (.slot n) = .ok (.intent (.addTerminal h.id)) →
      .openTerminal h.id ∈ Effect.requests (handle (.command (.slot n)) d).2 := by
  intro always
  let turns : List Turn :=
    [.operation (.report (.hostConnected ⟨⟨1⟩, "", "", ""⟩)), .operation (.command .add)]
  let s : Slot := ⟨⟨0⟩, .activating⟩
  let h : Host := ⟨⟨⟨1⟩, "", "", ""⟩, [s], none⟩
  have numbers : ((start {}).1.takeAll turns).1.Numbers 1 h s := ⟨by rfl, by decide, by rfl⟩
  have sent := always {} turns 1 h s numbers rfl rfl
  revert sent
  decide +kernel

end Desk

end Switchboard
