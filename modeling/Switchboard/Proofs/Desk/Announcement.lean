import Switchboard.Proofs.Desk.Coherence
import Switchboard.Proofs.Event.Delivery
import Switchboard.Proofs.Event.Mirror

/-!
# What is announced

The events of a desk tell a subscriber all there is to know about its terminals. `Coherent.tells`:
the events of a move fit what was known before and end with the desk after it.
`Followed.takeAll`: so does what reaches a subscriber, whoever else is subscribed.
-/

namespace Switchboard

def Act.event? : Act → Option Event
  | .publish _ e => some e
  | _ => none

namespace Desk

variable {d d' d₁ : Desk} {op : Operation} {acts : List Act} {m : Mirror} {r' : Roster}
  {t : TerminalId} {host : HostId} {shown : Option TerminalId} {current current' : Option HostId}

/-! ### The events of acts -/

theorem events_endActs (host : HostId) (ts : List TerminalId) :
    (ts.flatMap (endActs host)).filterMap Act.event? = ts.map (.terminalClosed host) := by
  induction ts with
  | nil => rfl
  | cons t ts ih =>
    rw [List.flatMap_cons, List.filterMap_append, ih]
    rfl

theorem events_closeActs (d : Desk) (origin : Origin) (host : HostId) (t : TerminalId) :
    (d.closeActs origin host t).filterMap Act.event? = [.terminalClosed host t] := by
  have slots : (d.hostActs .slotsChanged host).filterMap Act.event? = [] :=
    filterMap_hostActs (fun _ => rfl) d host
  simp only [closeActs, List.filterMap_append, slots]
  split <;> rfl

theorem events_listingActs (d : Desk) (t : TerminalId) :
    (d.listingActs t).filterMap Act.event? = [] := by
  unfold listingActs
  repeat' split
  all_goals rfl

theorem events_refreshActs (d : Desk) (origin : Origin) :
    (d.refreshActs origin).filterMap Act.event? =
      if d.view.changes d.wanted? then [.terminalSelected (d.wanted?.map (·.id))] else [] := by
  have cues : ∀ cs : List Cue, (cs.map Act.cue).filterMap Act.event? = [] := by
    intro cs
    simp [List.filterMap_map, Function.comp_def, Act.event?]
  unfold refreshActs
  split
  · rw [List.filterMap_append, cues]
    rfl
  · rfl

/-! ### What moves tell -/

theorem tells_refresh (d : Desk) (s : m.Shows d.sessions d.view.current current) (origin : Origin) :
    m.Tells ((d.refreshActs origin).filterMap Act.event?) d.sessions d.refreshed.view.current
      current := by
  rw [events_refreshActs]
  split
  · rename_i changes
    refine s.terminalSelected (by simpa [View.changes] using changes) fun t selected => ?_
    obtain ⟨session, wanted, rfl⟩ := Option.map_eq_some_iff.mp selected
    simp [Sessions.contains, wanted?_live wanted]
  · rename_i same
    rw [refreshed_of_same (by simpa using same)]
    exact s.nothing

theorem tells_host_if {ss : Sessions} (s : m.Shows ss shown current) (origin : Origin) (p : Prop)
    [Decidable p] (same : ¬ p → current' = current) :
    m.Tells ((if p then [Act.publish origin (.hostSelected current')] else []).filterMap Act.event?)
      ss shown current' := by
  split
  · exact s.hostSelected current'
  · rename_i not
    rw [same not]
    exact s.nothing

/-- The view leaves terminals before they are closed. -/
theorem Settled.tells_released {ts : List TerminalId} (s : d.Settled)
    (shows : m.Shows d.sessions d.view.current d.roster.current) (origin : Origin)
    (left : ∀ id t, r'.Holds id t ↔ d.roster.Holds id t ∧ t ∉ ts) (distinct : ts.Nodup)
    (held : ∀ t ∈ ts, d.roster.Holds host t) (released : d₁ = { d with roster := r' }) :
    m.Tells ((d₁.refreshActs origin).filterMap Act.event? ++ ts.map (.terminalClosed host))
      (ts.foldl Sessions.destroy d.sessions) d₁.refreshed.view.current d.roster.current := by
  subst released
  refine (tells_refresh { d with roster := r' } shows origin).append fun shows' => ?_
  refine shows'.terminalsClosed distinct (fun t mem => (s.owners t host).mpr (held t mem)) ?_
  intro t mem selected
  -- What the view has turned to is held still, and none of `ts` is.
  obtain ⟨id, _, still⟩ := Roster.holds_of_active? (active?_of_wanted? selected)
  exact ((left id t).mp still).2 mem

theorem tells_added {requested selected : Bool}
    (shows : m.Shows d.sessions d.view.current d.roster.current)
    (fresh : d.sessions.contains t = false)
    (grown : d₁ = { d with roster := r', sessions := d.sessions.create t host }) :
    m.Tells
      (([Act.publish .server (.terminalAdded host t)] ++ d₁.hostActs .slotsChanged host ++
        (if requested ∨ r'.current ≠ d.roster.current
          then [Act.publish .server (.hostSelected r'.current)] else []) ++
        (if selected then d₁.refreshActs .server else [])).filterMap Act.event?)
      (if selected then d₁.refreshed else d₁).sessions
      (if selected then d₁.refreshed else d₁).view.current
      (if selected then d₁.refreshed else d₁).roster.current := by
  have slots : (d₁.hostActs .slotsChanged host).filterMap Act.event? = [] :=
    filterMap_hostActs (fun _ => rfl) d₁ host
  rw [List.filterMap_append, List.filterMap_append, List.filterMap_append, slots, List.append_nil]
  subst grown
  refine Mirror.Tells.append (Mirror.Tells.append (shows.terminalAdded fresh host) fun s =>
    tells_host_if s .server _ fun same => not_not.mp (not_or.mp same).2) fun s => ?_
  cases selected with
  | true => exact tells_refresh _ s .server
  | false => exact s.nothing

/-- The events of a move fit what was known before it, and tell what the desk is after it. -/
theorem Coherent.tells (c : d.Coherent) (shows : m.Shows d.sessions d.view.current d.roster.current)
    (move : Move op d d' acts) :
    m.Tells (acts.filterMap Act.event?) d'.sessions d'.view.current d'.roster.current := by
  cases move with
  | ignored | terminalRefused | typed | resized | directoryOpened | fileOpened | directoryAsked
  | noticed => exact shows.nothing
  | hostConnected outcome grown =>
    subst grown
    rw [List.filterMap_append, filterMap_hostActs fun _ => rfl, List.nil_append]
    exact tells_host_if shows .server _ fun same => not_not.mp same
  | @hostDisconnected _ _ host removed roster outcome left =>
    have found := Roster.host?_of_removeHost outcome
    have distinct := (c.wellFormed.tidy_of_host? found).distinct
    have told := c.tells_released shows .server (c.holds_left outcome) distinct
      (fun t mem => (Roster.holds_iff found).mpr mem) left
    rw [foldl_forgotten, List.filterMap_append, List.filterMap_append, List.filterMap_append,
      events_endActs]
    subst left
    refine Mirror.Tells.append (told.append fun s => s.nothing) fun s => ?_
    refine tells_host_if s .server _ fun kept => ?_
    rw [Roster.current_removeHost outcome, if_neg kept]
  | terminalAdded fresh outcome grown => exact tells_added shows fresh grown
  | @terminalOutput _ t output live =>
    have silent : (if d.presented = some t then [Act.cue (.output t output.bytes)]
        else []).filterMap Act.event? = [] := by
      split <;> rfl
    rw [silent]
    exact (shows.congr fun u => Sessions.owner?_append d.sessions t u output.bytes).nothing
  | @terminalClosed _ _ _ origin host slot closed roster why outcome left =>
    have distinct : [closed.terminal].Nodup := List.nodup_singleton _
    have held := (Roster.holds_closeSlot c.wellFormed outcome).1
    have told := c.tells_released shows origin (c.holds_closed outcome) distinct
      (fun t mem => List.mem_singleton.mp mem ▸ held) left
    have same : roster.current = d.roster.current := by
      rw [← d.roster.current_closeSlot host slot, outcome]
    rw [List.filterMap_append, events_closeActs]
    subst left
    exact same ▸ told
  | @unheldClosed _ _ t unheld =>
    refine (shows.congr fun u => ?_).nothing
    have unowned : d.sessions.owner? t = none := by
      rw [Option.eq_none_iff_forall_ne_some]
      exact fun id owner => Roster.not_holds_of_locate? unheld ((c.owners t id).mp owner)
    rw [show (d.forgotten t).sessions = d.sessions.destroy t from rfl, Sessions.owner?_destroy]
    split
    · rename_i same
      rw [same, unowned]
    · rfl
  | @directoryListing _ t path files sessions listed =>
    subst listed
    have silent : (((d.sessions.list t path files).get? t).map fun s =>
        Act.cue (.entries s)).toList.filterMap Act.event? = [] := by
      cases (d.sessions.list t path files).get? t <;> rfl
    rw [silent]
    exact (shows.congr fun u => Sessions.owner?_list d.sessions t u path files).nothing
  | @hostSelected _ _ host roster outcome moved =>
    have same : ¬ d.roster.current ≠ some host → roster.current = d.roster.current := by
      intro here
      rcases d.roster.selectHost_cases host with ⟨_, unknown⟩ | ⟨_, known⟩
      · simp [unknown] at outcome
      · rw [known] at outcome
        obtain rfl := congrArg Prod.snd outcome
        exact (not_not.mp here).symm
    rw [List.filterMap_append]
    subst moved
    exact (tells_host_if shows .presenter _ same).append fun s =>
      tells_refresh { d with roster } s .presenter
  | @terminalRequested _ _ host slot roster outcome asked =>
    have same : roster.current = d.roster.current := by
      rw [← d.roster.current_request host, outcome]
    subst asked
    rw [List.filterMap_cons, filterMap_hostActs fun _ => rfl]
    exact same ▸ shows.nothing
  | @slotSelected _ _ _ _ _ roster outcome moved =>
    rw [List.filterMap_append, List.filterMap_append, filterMap_hostActs fun _ => rfl]
    subst moved
    exact (shows.hostSelected roster.current).append fun s =>
      tells_refresh { d with roster } s .presenter
  | @slotToggled _ _ _ _ t face _ outcome flipped =>
    have same := Roster.current_toggle outcome
    have listing : (if face = Face.files then d'.listingActs t else []).filterMap Act.event? =
        [] := by
      split
      · exact events_listingActs _ _
      · rfl
    rw [List.filterMap_append, List.filterMap_append, filterMap_hostActs fun _ => rfl, listing]
    subst flipped
    exact same ▸ shows.nothing

/-! ### What reaches a subscriber -/

def heardBy (id : SubscriberId) (es : List Effect) : List Event :=
  receivedBy id (Effect.deliveries es)

theorem heardBy_append (id : SubscriberId) (es more : List Effect) :
    heardBy id (es ++ more) = heardBy id es ++ heardBy id more := by
  simp [heardBy, receivedBy, Effect.deliveries]

theorem heardBy_publish {presenter id : SubscriberId} (apart : id ≠ presenter) (b : Bus)
    (origin : Origin) (e : Event) :
    heardBy id (b.relay presenter (.publish origin e)).2 =
      receivedBy id (b.publish (origin.sender presenter) e).1 := by
  have delivered : ∀ ds : List Delivery, heardBy id (ds.map .deliver) = receivedBy id ds := by
    intro ds
    simp [heardBy, Effect.deliveries, List.filterMap_map]
  have cues : ∀ ds : List Delivery, heardBy id (ds.map fun d => .cue (.event d.2)) = [] := by
    intro ds
    simp [heardBy, receivedBy, Effect.deliveries, List.filterMap_map]
  simp only [Bus.relay, heardBy_append, delivered, cues, List.append_nil, receivedBy,
    List.filterMap_filter]
  congr 1
  funext d
  by_cases same : d.1 = id
  · simp [same, apart]
  · simp [same]

theorem sender_ne {presenter id : SubscriberId} (apart : id ≠ presenter) (origin : Origin) :
    origin.sender presenter ≠ some id := by
  cases origin with
  | server => simp [Origin.sender]
  | presenter => simpa [Origin.sender] using apart.symm

theorem listens_relayAll {presenter id : SubscriberId} {b : Bus} {log all : List Event}
    (l : b.Listens id log all) (apart : id ≠ presenter) (acts : List Act) :
    (b.relayAll presenter acts).1.Listens id (log ++ heardBy id (b.relayAll presenter acts).2)
      (all ++ acts.filterMap Act.event?) := by
  induction acts generalizing b log all with
  | nil => simpa [Bus.relayAll, heardBy, receivedBy, Effect.deliveries] using l
  | cons act acts ih =>
    simp only [Bus.relayAll, heardBy_append, ← List.append_assoc]
    cases act with
    | cue c =>
      rw [show heardBy id (b.relay presenter (.cue c)).2 = [] from rfl, List.append_nil]
      exact ih l
    | send r =>
      rw [show heardBy id (b.relay presenter (.send r)).2 = [] from rfl, List.append_nil]
      exact ih l
    | publish origin e =>
      have next := ih (l.publish (sender_ne apart origin) e)
      rw [List.append_assoc all] at next
      rw [heardBy_publish apart]
      exact next

/-! ### Every run is mirrored -/

inductive Enrolment where
  | subscribe (handler : Handler)
  | unsubscribe (id : SubscriberId)

/-- What happens to a desk: an operation, or a change of who is subscribed. -/
inductive Turn where
  | operation (op : Operation)
  | enrolment (e : Enrolment)

def enrol (d : Desk) : Enrolment → Desk
  | .subscribe handler => (d.subscribe handler).2
  | .unsubscribe id => d.unsubscribe id

def take : Turn → Step
  | .operation op => handle op
  | .enrolment e => fun d => (d.enrol e, [])

def takeAll (d : Desk) (turns : List Turn) : Desk × List Effect := d.perform (turns.map take)

/-- What reached a subscriber is the beginning of events that tell what the desk is. -/
structure Followed (d : Desk) (id : SubscriberId) (log all : List Event) : Prop where
  coherent : d.Coherent
  apart : id ≠ d.presenter
  listens : d.bus.Listens id log all
  told : Mirror.Tells {} all d.sessions d.view.current d.roster.current

variable {id : SubscriberId} {log all : List Event}

theorem Followed.handle (f : d.Followed id log all) (op : Operation) :
    ∃ more, (handle op d).1.Followed id (log ++ heardBy id (handle op d).2) (all ++ more) := by
  obtain ⟨d₁, acts, d₂, more, m, asks, e⟩ := handle_moves op d
  refine ⟨(acts ++ more).filterMap Act.event?, ?_⟩
  have c := f.coherent.move m
  have told : Mirror.Tells {} (all ++ (acts ++ more).filterMap Act.event?) d₂.sessions
      d₂.view.current d₂.roster.current := by
    rw [List.filterMap_append]
    -- Asking for a terminal is a move of the desk after the first one.
    refine f.told.append fun s => (f.coherent.tells s m).append fun s' => ?_
    cases asks with
    | nothing => exact s'.nothing
    | terminal m' => exact c.tells s' m'
  rw [e.eq]
  exact {
    coherent := (c.asks asks).withBus _
    apart := e.presenter ▸ f.apart
    listens := listens_relayAll f.listens f.apart (acts ++ more)
    told := told }

theorem Followed.enrol (f : d.Followed id log all) (e : Enrolment) :
    (d.enrol e).Followed id log all := by
  cases e with
  | subscribe handler =>
    exact ⟨f.coherent.withBus _, f.apart, f.listens.subscribe handler, f.told⟩
  | unsubscribe other =>
    exact ⟨f.coherent.withBus _, f.apart, f.listens.unsubscribe other, f.told⟩

theorem Followed.takeAll (f : d.Followed id log all) (turns : List Turn) :
    ∃ more, (d.takeAll turns).1.Followed id (log ++ heardBy id (d.takeAll turns).2)
      (all ++ more) := by
  induction turns generalizing d log all with
  | nil => exact ⟨[], by simpa [Desk.takeAll, heardBy, receivedBy, Effect.deliveries] using f⟩
  | cons turn turns ih =>
    have first : ∃ more, (take turn d).1.Followed id (log ++ heardBy id (take turn d).2)
        (all ++ more) := by
      cases turn with
      | operation op => exact f.handle op
      | enrolment e =>
        have f' := f.enrol e
        exact ⟨[], by simpa [take, heardBy, receivedBy, Effect.deliveries] using f'⟩
    obtain ⟨more, f'⟩ := first
    obtain ⟨rest, f''⟩ := ih f'
    refine ⟨more ++ rest, ?_⟩
    rw [← List.append_assoc]
    simpa only [Desk.takeAll, List.map_cons, perform_cons, heardBy_append, List.append_assoc]
      using f''

theorem enrolled (n : d.bus.Numbered) (before : List Enrolment) :
    ∃ bus, before.foldl enrol d = { d with bus } ∧ bus.Numbered ∧ d.bus.next ≤ bus.next := by
  induction before generalizing d with
  | nil => exact ⟨d.bus, rfl, n, Nat.le_refl _⟩
  | cons e before ih =>
    have first : (d.enrol e).bus.Numbered ∧ d.bus.next ≤ (d.enrol e).bus.next := by
      cases e with
      | subscribe handler => exact ⟨n.subscribe handler, Nat.le_succ _⟩
      | unsubscribe id => exact ⟨n.sublist (d.bus.ids_unsubscribe id) rfl, Nat.le_refl _⟩
    obtain ⟨bus, same, numbered, le⟩ := ih first.1
    refine ⟨bus, same.trans ?_, numbered, Nat.le_trans first.2 le⟩
    cases e <;> rfl

/-- A subscriber that joins before the first operation, whoever joined or left before it. -/
theorem followed_start (settings : Settings) (before : List Enrolment) (handler : Handler) :
    let joined := (before.foldl enrol (start settings).1).subscribe handler
    joined.2.Followed joined.1 [] [] := by
  have numbered : (start settings).1.bus.Numbered := Bus.numbered_empty.subscribe .stay
  obtain ⟨bus, same, n, le⟩ := enrolled numbered before
  rw [same]
  refine ⟨(coherent_start settings).withBus _, ?_, n.listens handler, ?_⟩
  · intro equal
    have first : 1 ≤ bus.next := le
    have zero : bus.next = 0 := congrArg SubscriberId.number equal
    omega
  · exact Mirror.Shows.nothing ⟨fun _ => rfl, rfl, rfl, fun t selected => by cases selected⟩

/-- What reaches a subscriber mirrors the desk. Each event fits what is known by then, and the
terminal selected last is live. While the subscriber is registered, it knows after each operation
which terminals are live, on which hosts they are, which one is presented and which host is
current. -/
theorem log_mirrors (settings : Settings) (before : List Enrolment) (handler : Handler)
    (turns : List Turn) :
    let joined := (before.foldl enrol (start settings).1).subscribe handler
    let last := joined.2.takeAll turns
    let log := heardBy joined.1 last.2
    (∀ early e late, log = early ++ e :: late → (Mirror.hearAll {} early).Admits e) ∧
    (∀ early, early <+: log → (Mirror.hearAll {} early).Sound) ∧
    (last.1.bus.contains joined.1 →
      (∀ t host, (Mirror.hearAll {} log).live.get? t = some host ↔
        ∃ s ∈ last.1.sessions.live, s.id = t ∧ s.host = host) ∧
      (Mirror.hearAll {} log).terminal = last.1.presented ∧
      (Mirror.hearAll {} log).host = last.1.roster.current) := by
  intro joined last log
  obtain ⟨all, f⟩ := (followed_start settings before handler).takeAll turns
  rw [List.nil_append, List.nil_append] at f
  have consistent : Mirror.Consistent {} log := by
    obtain ⟨rest, split⟩ := f.listens.early
    exact (split ▸ f.told.consistent).left
  refine ⟨?_, fun early before => consistent.sound_of_prefix before, fun here => ?_⟩
  · intro early e late split
    exact (split ▸ consistent).admits
  · have whole : log = all := f.listens.whole here
    have shows := whole ▸ f.told.shows
    refine ⟨fun t host => ?_, shows.terminal, shows.host⟩
    rw [shows.live]
    constructor
    · intro owner
      obtain ⟨s, found, same⟩ := Option.map_eq_some_iff.mp owner
      exact ⟨s, Sessions.mem_of_get? found, Sessions.id_of_get? found, same⟩
    · rintro ⟨s, live, rfl, rfl⟩
      simp [Sessions.owner?, Sessions.get?_of_mem f.coherent.distinct live]

theorem log_mirrors_first_terminal :
    let turns : List Turn :=
      [.operation (.report (.hostConnected ⟨⟨1⟩, "", "", ""⟩)),
        .operation (.report (.terminalAdded ⟨1⟩ ⟨7⟩))]
    let joined := (start {}).1.subscribe .stay
    let last := joined.2.takeAll turns
    last.1.bus.contains joined.1 = true ∧ last.1.presented = some ⟨7⟩ ∧
      (Mirror.hearAll {} (heardBy joined.1 last.2)).terminal = last.1.presented := by
  intro turns joined last
  have here : last.1.bus.contains joined.1 = true := by decide
  have presented : last.1.presented = some ⟨7⟩ := by decide
  exact ⟨here, presented, ((log_mirrors {} [] .stay turns).2.2 here).2.1⟩

end Desk

end Switchboard
