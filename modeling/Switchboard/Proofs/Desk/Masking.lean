import Switchboard.Desk.Operation
import Switchboard.Proofs.Desk.Act
import Switchboard.Proofs.Session.Owners

/-!
# Masking output

A desk without the output of some terminals. `Blind`: a step does not look at that output, so from a
masked desk it leads to the masked desk, and what it does is masked. `blind_handle`: every operation
is blind but output of a masked terminal, which `masked_terminalOutput` says has no effect.
-/

namespace Switchboard

variable {hidden : TerminalId → Bool}

namespace Session

/-- A scrollback of the same capacity to which nothing was written. -/
def Scrollback.emptied (s : Scrollback) : Scrollback where
  capacity := s.capacity
  older := []
  newer := []
  total := 0
  positive := s.positive
  fits := by simp
  newer_eq_nil_of_lt := by simp

/-- A session, without output if its terminal is hidden. -/
def masked (hidden : TerminalId → Bool) (s : Session) : Session :=
  if hidden s.id then { s with scrollback := s.scrollback.emptied } else s

@[simp]
theorem id_masked (s : Session) : (s.masked hidden).id = s.id := by
  unfold masked
  split <;> rfl

@[simp]
theorem host_masked (s : Session) : (s.masked hidden).host = s.host := by
  unfold masked
  split <;> rfl

@[simp]
theorem listing_masked (s : Session) : (s.masked hidden).listing = s.listing := by
  unfold masked
  split <;> rfl

@[simp]
theorem masked_start (t : TerminalId) (host : HostId) (capacity : Nat) :
    (start t host capacity).masked hidden = start t host capacity := by
  unfold masked
  split <;> rfl

@[simp]
theorem masked_list (s : Session) (path : String) (files : List Wire.ListedFile) :
    (s.list path files).masked hidden = (s.masked hidden).list path files := by
  cases unshown : hidden s.id <;> simp only [masked, id_list, unshown] <;> rfl

theorem masked_append (s : Session) (output : Bytes) :
    (s.append output).masked hidden =
      if hidden s.id then s.masked hidden else (s.masked hidden).append output := by
  cases unshown : hidden s.id <;> simp only [masked, id_append, unshown] <;> rfl

end Session

namespace Sessions

variable {t : TerminalId}

def masked (hidden : TerminalId → Bool) (ss : Sessions) : Sessions :=
  { ss with live := ss.live.map (·.masked hidden) }

@[simp]
theorem get?_masked (ss : Sessions) (t : TerminalId) :
    (ss.masked hidden).get? t = (ss.get? t).map (·.masked hidden) :=
  find?_key_map fun s => s.id_masked

@[simp]
theorem contains_masked (ss : Sessions) (t : TerminalId) :
    (ss.masked hidden).contains t = ss.contains t := by
  simp [contains]

theorem masked_create (ss : Sessions) (t : TerminalId) (host : HostId) :
    (ss.create t host).masked hidden = (ss.masked hidden).create t host := by
  simp only [create, contains_masked]
  split
  · rfl
  · simp [masked]

theorem masked_destroy (ss : Sessions) (t : TerminalId) :
    (ss.destroy t).masked hidden = (ss.masked hidden).destroy t := by
  simp [masked, destroy, List.filter_map, Function.comp_def]

/-- Masking passes by a change that comes to the same, done before it or after it. -/
theorem masked_update (ss : Sessions) (t : TerminalId) {change change' : Session → Session}
    (passes : ∀ s : Session, s.id = t → (change s).masked hidden = change' (s.masked hidden)) :
    (ss.update t change).masked hidden = (ss.masked hidden).update t change' := by
  simp only [masked, update, List.map_map]
  congr 1
  apply List.map_congr_left
  intro s _
  simp only [Function.comp_apply, Session.id_masked]
  split
  · exact passes s ‹_›
  · rfl

theorem masked_list (ss : Sessions) (t : TerminalId) (path : String)
    (files : List Wire.ListedFile) :
    (ss.list t path files).masked hidden = (ss.masked hidden).list t path files :=
  ss.masked_update t fun s _ => s.masked_list path files

theorem masked_append (ss : Sessions) (shown : hidden t = false) (output : Bytes) :
    (ss.append t output).masked hidden = (ss.masked hidden).append t output := by
  refine ss.masked_update t fun s same => ?_
  simp [Session.masked_append, same, shown]

theorem masked_append_hidden (ss : Sessions) (unshown : hidden t = true) (output : Bytes) :
    (ss.append t output).masked hidden = ss.masked hidden := by
  have same : (ss.append t output).masked hidden = (ss.masked hidden).update t id := by
    refine ss.masked_update t fun s same => ?_
    simp [Session.masked_append, same, unshown]
  rw [same]
  simp [update]

end Sessions

/-! ### What a masked desk does -/

/-- A cue as a masked desk gives it: no output of a hidden terminal, and no session with such. -/
def Cue.masked? (hidden : TerminalId → Bool) : Cue → Option Cue
  | .output t bs => if hidden t then none else some (.output t bs)
  | .present s => some (.present (s.map (·.masked hidden)))
  | .entries s => some (.entries (s.masked hidden))
  | c => some c

def Effect.masked? (hidden : TerminalId → Bool) : Effect → Option Effect
  | .cue c => (c.masked? hidden).map .cue
  | e => some e

namespace Effect

def masked (hidden : TerminalId → Bool) (es : List Effect) : List Effect :=
  es.filterMap (masked? hidden)

@[simp]
theorem masked_nil : masked hidden [] = [] := rfl

@[simp]
theorem masked_append (es more : List Effect) :
    masked hidden (es ++ more) = masked hidden es ++ masked hidden more := List.filterMap_append

@[simp]
theorem masked_send (r : Wire.Request) (es : List Effect) :
    masked hidden (.send r :: es) = .send r :: masked hidden es := rfl

theorem masked_eq_self {es : List Effect} (plain : ∀ e ∈ es, e.masked? hidden = some e) :
    masked hidden es = es := by
  have same : es.filterMap (masked? hidden) = es.filterMap some :=
    List.filterMap_congr plain
  rw [masked, same, List.filterMap_some]

end Effect

namespace Desk

def masked (hidden : TerminalId → Bool) (d : Desk) : Desk :=
  { d with sessions := d.sessions.masked hidden }

/-- A step does the same, apart from what is masked, whatever the output of hidden terminals was. -/
def Blind (hidden : TerminalId → Bool) (step : Step) : Prop :=
  ∀ d, step (d.masked hidden) = ((step d).1.masked hidden, Effect.masked hidden (step d).2)

@[simp]
theorem roster_masked (d : Desk) : (d.masked hidden).roster = d.roster := rfl

@[simp]
theorem settings_masked (d : Desk) : (d.masked hidden).settings = d.settings := rfl

@[simp]
theorem view_masked (d : Desk) : (d.masked hidden).view = d.view := rfl

@[simp]
theorem sizes_masked (d : Desk) : (d.masked hidden).sizes = d.sizes := rfl

@[simp]
theorem sessions_masked (d : Desk) : (d.masked hidden).sessions = d.sessions.masked hidden := rfl

variable {d : Desk} {step : Step} {steps more : List Step} {c : Cue} {t : TerminalId}

namespace Blind

theorem nil : Blind hidden (perform · []) := fun _ => rfl

theorem cons (first : Blind hidden step) (rest : Blind hidden (perform · steps)) :
    Blind hidden (perform · (step :: steps)) := by
  intro d
  simp only [perform_cons, first d, rest (step d).1, Effect.masked_append]

theorem single (b : Blind hidden step) : Blind hidden (perform · [step]) := b.cons nil

theorem append (first : Blind hidden (perform · steps)) (rest : Blind hidden (perform · more)) :
    Blind hidden (perform · (steps ++ more)) := by
  intro d
  simp only [perform_append, first d, rest (d.perform steps).1, Effect.masked_append]

theorem ite (p : Prop) [Decidable p] (b : Blind hidden (perform · steps)) :
    Blind hidden (perform · (if p then steps else [])) := by
  split
  · exact b
  · exact nil

theorem flatMap {α : Type} (xs : List α) {f : α → List Step}
    (each : ∀ x, Blind hidden (perform · (f x))) : Blind hidden (perform · (xs.flatMap f)) := by
  induction xs with
  | nil => exact nil
  | cons x xs ih => exact (each x).append ih

end Blind

/-! ### The steps of which operations are made -/

/-- A step that changes nothing is blind if what it does has nothing to mask in it. -/
theorem blind_of_plain {effects : Desk → List Effect}
    (same : ∀ d : Desk, effects (d.masked hidden) = effects d)
    (plain : ∀ d, ∀ e ∈ effects d, e.masked? hidden = some e) :
    Blind hidden fun d => (d, effects d) := by
  intro d
  simp only [same, Effect.masked_eq_self (plain d)]

theorem blind_tell (plain : c.masked? hidden = some c) : Blind hidden (tell c) := by
  refine blind_of_plain (fun _ => rfl) fun _ e mem => ?_
  rw [List.mem_singleton.mp mem, Effect.masked?, plain, Option.map_some]

theorem blind_ask (r : Wire.Request) : Blind hidden (ask r) := fun _ => rfl

theorem blind_tellOf {cue : Host → Cue} (plain : ∀ h, (cue h).masked? hidden = some (cue h))
    (host : HostId) : Blind hidden (tellOf cue host) := by
  refine blind_of_plain (fun _ => rfl) fun d e mem => ?_
  obtain ⟨h, _, rfl⟩ := Option.map_eq_some_iff.mp (Option.mem_toList.mp mem)
  rw [Effect.masked?, plain, Option.map_some]

theorem blind_showSlots (host : HostId) : Blind hidden (showSlots host) :=
  blind_tellOf (fun _ => rfl) host

theorem blind_publish (origin : Origin) (e : Event) : Blind hidden (publish origin e) := by
  intro d
  have plain : ∀ x ∈ (publish origin e d).2, x.masked? hidden = some x := by
    intro x mem
    rcases List.mem_append.mp mem with others | presenter
    · obtain ⟨_, _, rfl⟩ := List.mem_map.mp others
      rfl
    · obtain ⟨_, _, rfl⟩ := List.mem_map.mp presenter
      rfl
  rw [Effect.masked_eq_self plain]
  cases origin <;> rfl

theorem blind_publishHost (origin : Origin) : Blind hidden (publishHost origin) := fun d =>
  blind_publish origin (.hostSelected d.roster.current) d

theorem blind_forget (t : TerminalId) : Blind hidden (forget t) := by
  intro d
  simp only [forget, masked, Sessions.masked_destroy]
  rfl

theorem wanted?_masked (d : Desk) :
    (d.masked hidden).wanted? = d.wanted?.map (·.masked hidden) := by
  cases active : d.roster.active? <;> simp [wanted?, active]

/-- Refreshing the view, after the session was presented. -/
def tellRefreshed (origin : Origin) (chosen : Option TerminalId) : List Step :=
  [fun d => (d, (d.presented.filter d.showsFiles).toList.map fun t => .cue (.fileBrowser t true)),
    publish origin (.terminalSelected chosen)]

theorem blind_tellRefreshed (origin : Origin) (chosen : Option TerminalId) :
    Blind hidden (perform · (tellRefreshed origin chosen)) := by
  have files : Blind hidden fun d =>
      (d, (d.presented.filter d.showsFiles).toList.map fun t => .cue (.fileBrowser t true)) := by
    refine blind_of_plain (fun _ => rfl) fun d e mem => ?_
    obtain ⟨_, _, rfl⟩ := List.mem_map.mp mem
    rfl
  exact files.cons (blind_publish origin (.terminalSelected chosen)).single

theorem refreshView_of_changes (origin : Origin) (changes : d.view.changes d.wanted? = true) :
    refreshView origin d =
      let (d₁, more) := d.refreshed.perform (tellRefreshed origin (d.wanted?.map (·.id)))
      (d₁, .cue (.present d.wanted?) :: more) := by
  simp only [refreshView, changes, if_true]
  rw [present_of_changes changes]
  rfl

theorem blind_refreshView (origin : Origin) : Blind hidden (refreshView origin) := by
  intro d
  have chosen : (d.masked hidden).wanted?.map (·.id) = d.wanted?.map (·.id) := by
    simp [wanted?_masked, Function.comp_def]
  have refreshed : (d.masked hidden).refreshed = d.refreshed.masked hidden := by
    simp only [Desk.refreshed, chosen]
    rfl
  have same : (d.masked hidden).view.changes (d.masked hidden).wanted? =
      d.view.changes d.wanted? := by
    rw [View.changes, chosen, View.changes, view_masked]
  cases changes : d.view.changes d.wanted? with
  | false =>
    simp only [refreshView, same, changes, Bool.false_eq_true, if_false]
    rfl
  | true =>
    rw [refreshView_of_changes origin (same.trans changes), refreshView_of_changes origin changes,
      chosen, refreshed, wanted?_masked]
    simp only [blind_tellRefreshed origin (d.wanted?.map (·.id)) d.refreshed]
    rfl

theorem blind_requestTerminal (host : HostId) : Blind hidden (requestTerminal host) := by
  intro d
  match outcome : d.roster.request host with
  | (none, roster) => simp [requestTerminal, outcome]
  | (some slot, roster) =>
    simp only [requestTerminal, roster_masked, outcome]
    exact ((blind_ask (.openTerminal host)).cons (blind_showSlots host).single) { d with roster }

theorem blind_closeSlot (origin : Origin) (host : HostId) (slot : SlotId) :
    Blind hidden (closeSlot origin host slot) := by
  intro d
  match outcome : d.roster.closeSlot host slot with
  | (none, roster) => simp [closeSlot, outcome]
  | (some closed, roster) =>
    simp only [closeSlot, roster_masked, outcome]
    have told : Blind hidden (publish origin (.terminalClosed host closed.terminal)) :=
      blind_publish origin _
    exact (((blind_refreshView origin).single.append
      ((blind_ask (.closeTerminal closed.terminal)).single.ite (origin = .presenter))).append
        ((blind_forget closed.terminal).cons (told.cons (blind_showSlots host).single)))
          { d with roster }

/-! ### Intents -/

theorem blind_selectHost (host : HostId) : Blind hidden (selectHost host) := by
  intro d
  match outcome : d.roster.selectHost host with
  | (false, roster) => simp [selectHost, outcome]
  | (true, roster) =>
    simp only [selectHost, roster_masked, settings_masked, outcome]
    exact ((((blind_publishHost .presenter).single.ite _).append
      (blind_refreshView .presenter).single).append
        ((blind_requestTerminal host).single.ite _)) { d with roster }

theorem blind_showListing (t : TerminalId) : Blind hidden (showListing t) := by
  intro d
  cases found : d.sessions.get? t with
  | none => simp [showListing, found]
  | some s =>
    cases listed : s.listing <;>
      simp [showListing, found, listed, Effect.masked, Effect.masked?, Cue.masked?]

theorem blind_selectSlot (host : HostId) (slot : SlotId) :
    Blind hidden (selectSlot host slot) := by
  intro d
  match outcome : d.roster.selectSlot host slot with
  | (.ignored, roster) => simp [selectSlot, outcome]
  | (.selected t, roster) =>
    simp only [selectSlot, roster_masked, outcome]
    exact ((blind_showSlots host).cons ((blind_publishHost .presenter).cons
      (blind_refreshView .presenter).single)) { d with roster }
  | (.toggled t face, roster) =>
    simp only [selectSlot, roster_masked, outcome]
    exact (((blind_showSlots host).cons (blind_tell rfl).single).append
      ((blind_showListing t).single.ite _)) { d with roster }

theorem blind_key (t : TerminalId) (text : String) : Blind hidden (key t text) := by
  intro d
  cases live : d.sessions.contains t <;> simp [key, live]

theorem blind_resize (t : TerminalId) (size : Size) : Blind hidden (resize t size) := by
  intro d
  simp only [resize, sessions_masked, Sessions.contains_masked, sizes_masked]
  split <;> rfl

theorem navigate?_masked (d : Desk) (t : TerminalId) (index : Nat) :
    ((d.masked hidden).sessions.get? t).bind (·.navigate? index) =
      (d.sessions.get? t).bind (·.navigate? index) := by
  cases found : d.sessions.get? t <;> simp [found, Session.navigate?]

theorem blind_openEntry (t : TerminalId) (index : Nat) : Blind hidden (openEntry t index) := by
  intro d
  simp only [openEntry, navigate?_masked]
  split <;> rfl

theorem blind_listDirectory (t : TerminalId) (path : String) :
    Blind hidden (listDirectory t path) := by
  intro d
  cases found : d.sessions.get? t <;> simp [listDirectory, found, directoryOf]

theorem blind_handleIntent (i : Intent) : Blind hidden (handleIntent i) := by
  cases i with
  | selectHost host => exact blind_selectHost host
  | addTerminal host => exact blind_requestTerminal host
  | selectSlot host slot => exact blind_selectSlot host slot
  | closeSlot host slot => exact blind_closeSlot .presenter host slot
  | key t text => exact blind_key t text
  | resize t size => exact blind_resize t size
  | openEntry t index => exact blind_openEntry t index
  | listDirectory t path => exact blind_listDirectory t path

/-! ### Commands -/

/-- What a command stands for does not depend on output. -/
theorem resolve_masked (d : Desk) (c : Command) : (d.masked hidden).resolve c = d.resolve c := by
  cases c with
  | openEntry name =>
    have index : ∀ t, ((d.masked hidden).sessions.get? t).bind (·.indexOf? name) =
        (d.sessions.get? t).bind (·.indexOf? name) := by
      intro t
      cases found : d.sessions.get? t <;> simp [found, Session.indexOf?]
    simp only [resolve, index]
    rfl
  | _ => rfl

theorem blind_handleCommand (c : Command) : Blind hidden (handleCommand c) := by
  intro d
  simp only [handleCommand, resolve_masked]
  split
  · exact blind_handleIntent _ d
  · exact blind_tell rfl d
  · exact blind_tell rfl d

/-! ### Reports -/

theorem blind_hostConnected (info : HostInfo) : Blind hidden (hostConnected info) := by
  intro d
  match outcome : d.roster.addHost info with
  | (false, roster) => simp [hostConnected, outcome]
  | (true, roster) =>
    simp only [hostConnected, roster_masked, settings_masked, outcome]
    have added : Blind hidden (tellOf .hostAdded info.id) := blind_tellOf (fun _ => rfl) info.id
    exact ((added.single.append ((blind_publishHost .server).single.ite _)).append
      ((blind_requestTerminal info.id).single.ite _)) { d with roster }

theorem blind_hostDisconnected (host : HostId) : Blind hidden (hostDisconnected host) := by
  intro d
  match outcome : d.roster.removeHost host with
  | (none, roster) => simp [hostDisconnected, outcome]
  | (some removed, roster) =>
    simp only [hostDisconnected, roster_masked, outcome]
    have ends : ∀ t, Blind hidden (perform ·
        [ask (.closeTerminal t), forget t, publish .server (.terminalClosed host t)]) := fun t =>
      (blind_ask _).cons ((blind_forget t).cons (blind_publish .server _).single)
    exact ((((blind_refreshView .server).single.append (.flatMap _ ends)).append
      (blind_tell rfl).single).append ((blind_publishHost .server).single.ite _)) { d with roster }

theorem blind_terminalAdded (host : HostId) (t : TerminalId) :
    Blind hidden (terminalAdded host t) := by
  intro d
  cases live : d.sessions.contains t with
  | true => simp [terminalAdded, live]
  | false =>
    match outcome : d.roster.attach host t with
    | (.unknownHost, roster) | (.duplicate, roster) => simp [terminalAdded, live, outcome]
    | (.atCapacity, roster) =>
      simp only [terminalAdded, sessions_masked, Sessions.contains_masked, live, roster_masked,
        outcome]
      exact (blind_ask (.closeTerminal t)).single d
    | (.attached slot requested selected, roster) =>
      simp only [terminalAdded, sessions_masked, Sessions.contains_masked, live, roster_masked,
        outcome, ← Sessions.masked_create]
      exact ((((blind_publish .server (.terminalAdded host t)).cons
        (blind_showSlots host).single).append ((blind_publishHost .server).single.ite _)).append
          ((blind_refreshView .server).single.ite selected))
            { d with roster, sessions := d.sessions.create t host }

theorem blind_terminalClosed (t : TerminalId) : Blind hidden (terminalClosed t) := by
  intro d
  simp only [terminalClosed, roster_masked]
  split
  · exact blind_closeSlot .server _ _ d
  · exact blind_forget t d

theorem blind_directoryListing (t : TerminalId) (path : String) (files : List Wire.ListedFile) :
    Blind hidden (directoryListing t path files) := by
  intro d
  simp only [directoryListing, sessions_masked, ← Sessions.masked_list, Sessions.get?_masked]
  cases (d.sessions.list t path files).get? t <;> rfl

theorem blind_terminalOutput (shown : hidden t = false) (output : Bytes) :
    Blind hidden (terminalOutput t output) := by
  intro d
  have told : Effect.masked hidden [.cue (.output t output)] = [.cue (.output t output)] := by
    simp [Effect.masked, Effect.masked?, Cue.masked?, shown]
  simp only [terminalOutput, sessions_masked, Sessions.contains_masked,
    ← Sessions.masked_append d.sessions shown output]
  split
  · refine Prod.ext rfl ?_
    show (if d.presented = some t then [Effect.cue (.output t output)] else []) =
      Effect.masked hidden (if d.presented = some t then [.cue (.output t output)] else [])
    split
    · exact told.symm
    · rfl
  · rfl

/-- Output of a hidden terminal is nothing to a masked desk. -/
theorem masked_terminalOutput (unshown : hidden t = true) (output : Bytes) (d : Desk) :
    (terminalOutput t output d).1.masked hidden = d.masked hidden ∧
      Effect.masked hidden (terminalOutput t output d).2 = [] := by
  unfold terminalOutput
  split
  · refine ⟨?_, ?_⟩
    · simp only [masked, Sessions.masked_append_hidden d.sessions unshown]
    · split <;> simp [Effect.masked, Effect.masked?, Cue.masked?, unshown]
  · exact ⟨rfl, rfl⟩

end Desk

/-- The terminal of which an operation reports output. -/
def Operation.speaker? : Operation → Option TerminalId
  | .report (.terminalOutput t _) => some t
  | _ => none

namespace Desk

variable {op : Operation}

theorem blind_handle (shown : ∀ t, op.speaker? = some t → hidden t = false) :
    Blind hidden (handle op) := by
  cases op with
  | intent i => exact blind_handleIntent i
  | command c => exact blind_handleCommand c
  | report r =>
    cases r with
    | hostConnected info => exact blind_hostConnected info
    | hostDisconnected host => exact blind_hostDisconnected host
    | terminalAdded host t => exact blind_terminalAdded host t
    | terminalOutput t output => exact blind_terminalOutput (shown t rfl) output.bytes
    | terminalClosed named t => exact blind_terminalClosed t
    | directoryListing t path files => exact blind_directoryListing t path files

theorem masked_handle {t : TerminalId} (speaks : op.speaker? = some t) (unshown : hidden t = true)
    (d : Desk) :
    (handle op d).1.masked hidden = d.masked hidden ∧
      Effect.masked hidden (handle op d).2 = [] := by
  unfold Operation.speaker? at speaks
  split at speaks <;> cases speaks
  exact masked_terminalOutput unshown _ d

end Desk

end Switchboard
