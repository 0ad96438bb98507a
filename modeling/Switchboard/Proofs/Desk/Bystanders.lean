import Switchboard.Proofs.Desk.Miss
import Switchboard.Proofs.Roster.Bystanders

/-!
# Hosts and terminals that an operation does not concern

An operation concerns one host at most, and the terminal that it names. Whatever else it sets off,
the other hosts and the other sessions stay as they are.
-/

namespace Switchboard

/-- The terminal that an operation names. -/
def Operation.namedTerminal? : Operation → Option TerminalId
  | .report (.terminalAdded _ t) => some t
  | op => op.terminal?

/-- The host that an operation names. -/
def Operation.namedHost? : Operation → Option HostId
  | .report (.hostConnected info) => some info.id
  | .report (.terminalClosed named _) => named
  | op => op.host?.or (op.slot?.map Prod.fst)

/-- Subscribers drop out while events are published, and none joins. -/
theorem Bus.ids_relayAll (b : Bus) (presenter : SubscriberId) (acts : List Act) :
    (b.relayAll presenter acts).1.ids.Sublist b.ids := by
  induction acts generalizing b with
  | nil => exact List.Sublist.refl _
  | cons act acts ih =>
    cases act with
    | cue | send => exact ih b
    | publish origin e => exact (ih _).trans (b.ids_publish _ e)

namespace Desk

variable {d d' d₁ d₂ : Desk} {op : Operation} {acts : List Act} {r' : Roster} {host : HostId}
  {slot : SlotId} {t : TerminalId}

/-- The host on which the terminal that an operation names is live, else the host that the operation
names. -/
def concernedHost? (d : Desk) (op : Operation) : Option HostId :=
  (op.namedTerminal?.bind d.sessions.owner?).or op.namedHost?

/-- An operation concerns the terminals of a host that disconnects, the one in a slot that is
clicked or closed, and otherwise the one that it names. -/
def Concerns (d : Desk) (t : TerminalId) : Operation → Prop
  | .report (.hostDisconnected host) => d.sessions.owner? t = some host
  | .intent (.selectSlot host slot) | .intent (.closeSlot host slot) =>
    d.roster.terminalAt? host slot = some t
  | op => op.namedTerminal? = some t

/-- What is after an operation as it was before. -/
structure Spares (d : Desk) (op : Operation) (d' : Desk) : Prop where
  roster : Roster.Confined (d.concernedHost? op) d.roster d'.roster
  session : ∀ t, ¬ d.Concerns t op → d'.sessions.get? t = d.sessions.get? t
  size : ∀ t, ¬ d.Concerns t op → d'.sizes.get? t = d.sizes.get? t
  capacity : d'.sessions.capacity = d.sessions.capacity
  settings : d'.settings = d.settings

namespace Spares

theorem of_same (roster : Roster.Confined (d.concernedHost? op) d.roster d'.roster)
    (sessions : d'.sessions = d.sessions) (sizes : d'.sizes = d.sizes)
    (settings : d'.settings = d.settings) : d.Spares op d' :=
  ⟨roster, fun t _ => by rw [sessions], fun t _ => by rw [sizes], by rw [sessions], settings⟩

theorem of_released {ts : List TerminalId}
    (roster : Roster.Confined (d.concernedHost? op) d.roster r')
    (released : d₁ = { d with roster := r' }) (concerned : ∀ t ∈ ts, d.Concerns t op) :
    d.Spares op (ts.foldl forgotten d₁.refreshed) := by
  subst released
  have kept : ∀ t, ¬ d.Concerns t op → t ∉ ts := fun t other mem => other (concerned t mem)
  rw [foldl_forgotten]
  refine ⟨roster, fun t other => ?_, fun t other => ?_, capacity_foldl_destroy ts d.sessions, rfl⟩
  · exact (get?_foldl_destroy ts d.sessions t).trans (if_neg (kept t other))
  · exact (get?_foldl_erase ts d.sizes t).trans (if_neg (kept t other))

end Spares

/-! ### What an operation concerns -/

theorem concernedHost?_of_unlive (named : op.namedTerminal? = some t)
    (unlive : d.sessions.contains t = false) : d.concernedHost? op = op.namedHost? := by
  have unowned : d.sessions.owner? t = none := by simpa [Sessions.contains_eq] using unlive
  simp [concernedHost?, named, unowned]

theorem concernedHost?_of_greeting (greeted : d.greeting? op = some (host, r')) :
    d.concernedHost? op = some host := by
  unfold greeting? at greeted
  split at greeted <;> cases greeted <;> rfl

theorem Settled.concerned_of_closes (s : d.Settled) {origin : Origin}
    (why : d.Closes host slot op origin) (bound : d.roster.terminalAt? host slot = some t) :
    d.concernedHost? op = some host ∧ d.Concerns t op := by
  unfold Closes at why
  split at why
  · rename_i named u
    have there := Roster.terminalAt?_of_locate? s.wellFormed why
    obtain rfl := Option.some.inj (there.symm.trans bound)
    have owner := (s.owners u host).mpr (Roster.holds_of_terminalAt? bound)
    exact ⟨by simp [concernedHost?, Operation.namedTerminal?, Operation.terminal?, owner], rfl⟩
  · obtain ⟨rfl, rfl⟩ := why
    exact ⟨rfl, bound⟩
  · exact why.elim

/-! ### Every operation spares the rest -/

theorem Coherent.spares (c : d.Coherent) (m : Move op d d' acts) : d.Spares op d' := by
  have apart : ∀ {t u : TerminalId}, some t ≠ some u → u ≠ t := by
    rintro t _ other rfl
    exact other rfl
  cases m with
  | ignored | terminalRefused | typed | directoryOpened | fileOpened | directoryAsked
  | noticed => exact .of_same (.refl _ _) rfl rfl rfl
  | @hostConnected _ _ info _ outcome grown =>
    obtain rfl := congrArg Prod.snd outcome
    subst grown
    exact .of_same (d.roster.confined_addHost info) rfl rfl rfl
  | @hostDisconnected _ _ host removed _ outcome left =>
    have found := Roster.host?_of_removeHost outcome
    obtain rfl := congrArg Prod.snd outcome
    refine .of_released (d.roster.confined_removeHost host) left fun t mem => ?_
    exact (c.owners t host).mpr ((Roster.holds_iff found).mpr mem)
  | @terminalAdded _ _ host t _ _ selected _ fresh outcome grown =>
    have concerned : d.concernedHost? (.report (.terminalAdded host t)) = some host :=
      concernedHost?_of_unlive rfl fresh
    have confined := concerned ▸ d.roster.confined_attach host t
    rw [outcome] at confined
    have created : ∀ u, some t ≠ some u → (d.sessions.create t host).get? u = d.sessions.get? u :=
      fun u other => Sessions.get?_create_of_ne d.sessions host (apart other)
    have capacity : (d.sessions.create t host).capacity = d.sessions.capacity := by
      simp [Sessions.create, fresh]
    subst grown
    cases selected <;> exact ⟨confined, created, fun _ _ => rfl, capacity, rfl⟩
  | @terminalOutput _ t output live =>
    refine ⟨.refl _ _, fun u other => ?_, fun _ _ => rfl, rfl, rfl⟩
    have kept := Sessions.get?_append d.sessions t u output.bytes
    simpa [apart other] using kept
  | @terminalClosed _ _ _ _ host slot closed _ why outcome left =>
    have bound := Roster.terminalAt?_of_closeSlot c.wellFormed outcome
    obtain ⟨concerned, this⟩ := c.concerned_of_closes why bound
    have confined := concerned ▸ d.roster.confined_closeSlot host slot
    rw [outcome] at confined
    have all : ∀ t ∈ [closed.terminal], d.Concerns t op :=
      fun t mem => List.mem_singleton.mp mem ▸ this
    exact Spares.of_released confined left all
  | @unheldClosed _ _ t unheld =>
    refine ⟨.refl _ _, fun u other => ?_, fun u other => ?_, rfl, rfl⟩
    · exact Sessions.get?_destroy_of_ne d.sessions (apart other)
    · exact Table.get?_erase_of_ne d.sizes (apart other)
  | @directoryListing _ t path files _ listed =>
    subst listed
    refine ⟨.refl _ _, fun u other => ?_, fun _ _ => rfl, rfl, rfl⟩
    have kept := Sessions.get?_list d.sessions t u path files
    simpa [apart other] using kept
  | @hostSelected _ _ host _ outcome moved =>
    obtain rfl := congrArg Prod.snd outcome
    subst moved
    exact .of_same (d.roster.confined_selectHost host) rfl rfl rfl
  | @terminalRequested _ _ host _ _ outcome asked =>
    obtain rfl := congrArg Prod.snd outcome
    subst asked
    exact .of_same (d.roster.confined_request host) rfl rfl rfl
  | @slotSelected _ _ host slot _ _ outcome moved
  | @slotToggled _ _ host slot _ _ _ outcome moved =>
    obtain rfl := congrArg Prod.snd outcome
    subst moved
    exact .of_same (d.roster.confined_selectSlot host slot) rfl rfl rfl
  | @resized _ t size live other =>
    refine ⟨.refl _ _, fun _ _ => rfl, fun u other => ?_, rfl, rfl⟩
    exact Table.get?_put_of_ne d.sizes size (apart other)

/-- The terminal that may be asked for in the end is one of the host that was taken in or
selected. -/
theorem Spares.asks {more : List Act} (s : d.Spares op d₁) (a : Asks (d.greeting? op) d₁ d₂ more) :
    d.Spares op d₂ := by
  cases a with
  | nothing => exact s
  | @terminal _ _ host m there =>
    cases m with
    | ignored => exact s
    | terminalClosed why => exact why.elim
    | terminalRequested outcome asked =>
      have concerned : d.concernedHost? op = some host := concernedHost?_of_greeting there
      have confined := concerned ▸ d₁.roster.confined_request host
      have order := d₁.roster.map_id_request host
      rw [outcome] at confined order
      subst asked
      exact ⟨s.roster.trans confined order, s.session, s.size, s.capacity, s.settings⟩

theorem Coherent.spares_handle (c : d.Coherent) (op : Operation) :
    d.Spares (d.meaning op) (Desk.handle op d).1 := by
  obtain ⟨d₁, acts, d₂, more, m, asks, e⟩ := handle_moves op d
  have s := (c.spares m).asks asks
  rw [e.eq]
  exact ⟨s.roster, s.session, s.size, s.capacity, s.settings⟩

theorem ids_handle (op : Operation) (d : Desk) : (handle op d).1.bus.ids.Sublist d.bus.ids := by
  obtain ⟨d₁, acts, d₂, more, _, _, e⟩ := handle_moves op d
  rw [e.eq]
  exact d.bus.ids_relayAll d.presenter (acts ++ more)

/-- Whatever happened before and whoever is subscribed, an operation leaves alone what it does not
concern: the hosts but one stay as they are, and those that remain stay in their order; a terminal
that is not concerned keeps its session and its size, or stays dead. Settings stay, the numbers of
slots go up, and no subscriber joins. -/
theorem bystanders_kept (settings : Settings) (turns : List Turn) (op : Operation) :
    let d := ((start settings).1.takeAll turns).1
    let d' := (handle op d).1
    let meant := d.meaning op
    let ids := d.roster.hosts.map Host.id
    let ids' := d'.roster.hosts.map Host.id
    d'.roster.hosts.filter (d.concernedHost? meant ≠ some ·.id) =
        d.roster.hosts.filter (d.concernedHost? meant ≠ some ·.id) ∧
      (ids' = ids ∨ ∃ host, d.concernedHost? meant = some host ∧
        (ids' = ids ++ [host] ∨ ids' = ids.filter (· ≠ host))) ∧
      (∀ t, ¬ d.Concerns t meant →
        d'.sessions.get? t = d.sessions.get? t ∧ d'.sizes.get? t = d.sizes.get? t) ∧
      d'.settings = d.settings ∧ d'.roster.cap = d.roster.cap ∧
      d'.sessions.capacity = d.sessions.capacity ∧ d'.presenter = d.presenter ∧
      d.roster.next ≤ d'.roster.next ∧ d'.bus.ids.Sublist d.bus.ids := by
  intro d d' meant ids ids'
  have c : d.Coherent := ((coherent_start settings).history turns).1
  have s := c.spares_handle op
  exact ⟨s.roster.others, s.roster.order, fun t other => ⟨s.session t other, s.size t other⟩,
    s.settings, cap_handle op d, s.capacity, presenter_handle op d, s.roster.next, ids_handle op d⟩

theorem bystanders_kept_other_host_named :
    let turns : List Turn :=
      [.operation (.report (.hostConnected ⟨⟨1⟩, "", "", ""⟩)),
        .operation (.report (.hostConnected ⟨⟨2⟩, "", "", ""⟩)),
        .operation (.report (.terminalAdded ⟨1⟩ ⟨7⟩)),
        .operation (.report (.terminalAdded ⟨2⟩ ⟨8⟩))]
    let d := ((start {}).1.takeAll turns).1
    let close : Operation := .report (.terminalClosed (some ⟨2⟩) ⟨7⟩)
    let d' := (handle close d).1
    d.concernedHost? close = some ⟨1⟩ ∧ ¬ d.Concerns ⟨8⟩ close ∧
      d'.roster.hosts.filter (some ⟨1⟩ ≠ some ·.id) =
        d.roster.hosts.filter (some ⟨1⟩ ≠ some ·.id) ∧
      (d'.sessions.get? ⟨8⟩ = d.sessions.get? ⟨8⟩ ∧ d'.sizes.get? ⟨8⟩ = d.sizes.get? ⟨8⟩) := by
  intro turns d close d'
  have concerned : d.concernedHost? close = some ⟨1⟩ := by decide +kernel
  have apart : ¬ d.Concerns ⟨8⟩ close := by
    show ¬ some (⟨7⟩ : TerminalId) = some ⟨8⟩
    decide
  obtain ⟨others, -, kept, -⟩ := bystanders_kept {} turns close
  exact ⟨concerned, apart, concerned ▸ others, kept ⟨8⟩ apart⟩

end Desk

end Switchboard
