import Switchboard.Proofs.Desk.Move
import Switchboard.Proofs.Roster.Holdings
import Switchboard.Proofs.Session.Owners

/-!
# Coherence

The roster, the sessions, the view and the sizes of a desk agree. `Coherent.move`: every move keeps
it so, and `Coherent.after`: so does every run of operations.
-/

namespace Switchboard.Desk

variable {d d' d₁ d₂ : Desk} {op : Operation} {acts : List Act} {r' : Roster}

/-- The sessions are those of the terminals that the hosts hold, each on the host that holds it, and
a size is kept of live terminals only. -/
structure Settled (d : Desk) : Prop where
  wellFormed : d.roster.WellFormed
  distinct : d.sessions.ids.Nodup
  owners : ∀ t id, d.sessions.owner? t = some id ↔ d.roster.Holds id t
  sizes : ∀ t, (d.sizes.get? t).isSome → d.sessions.contains t

/-- The active terminal is presented, too. -/
structure Coherent (d : Desk) : Prop extends d.Settled where
  view : d.view.current = d.roster.active?

namespace Settled

theorem exclusive {t : TerminalId} {id id' : HostId} (s : d.Settled) (held : d.roster.Holds id t)
    (held' : d.roster.Holds id' t) : id = id' := by
  have owner := (s.owners t id).mpr held
  rw [(s.owners t id').mpr held'] at owner
  exact (Option.some.inj owner).symm

theorem contains_iff_holds {t : TerminalId} (s : d.Settled) :
    d.sessions.contains t = true ↔ ∃ id, d.roster.Holds id t := by
  rw [Sessions.contains_eq, Option.isSome_iff_exists]
  exact exists_congr (s.owners t)

theorem not_holds {t : TerminalId} (s : d.Settled) (unlive : d.sessions.contains t = false)
    (id : HostId) : ¬ d.roster.Holds id t := by
  intro held
  rw [s.contains_iff_holds.mpr ⟨id, held⟩] at unlive
  cases unlive

theorem contains_of_active? {t : TerminalId} (s : d.Settled) (active : d.roster.active? = some t) :
    d.sessions.contains t := by
  obtain ⟨id, _, held⟩ := Roster.holds_of_active? active
  exact s.contains_iff_holds.mpr ⟨id, held⟩

theorem withBus (s : d.Settled) (bus : Bus) : ({ d with bus } : Desk).Settled :=
  ⟨s.wellFormed, s.distinct, s.owners, s.sizes⟩

end Settled

theorem Coherent.withBus (c : d.Coherent) (bus : Bus) : ({ d with bus } : Desk).Coherent :=
  ⟨c.toSettled.withBus bus, c.view⟩

theorem Coherent.contains_of_presented {t : TerminalId} (c : d.Coherent)
    (presented : d.view.current = some t) : d.sessions.contains t :=
  c.contains_of_active? (c.view.symm.trans presented)

/-! ### Refreshing the view -/

theorem wanted?_id (live : ∀ t, d.roster.active? = some t → d.sessions.contains t) :
    d.wanted?.map (·.id) = d.roster.active? := by
  cases active : d.roster.active? with
  | none => simp [wanted?, active]
  | some t =>
    obtain ⟨s, found⟩ := Option.isSome_iff_exists.mp (live t active)
    simp [wanted?, active, found, Sessions.id_of_get? found]

theorem wanted?_live {s : Session} (wanted : d.wanted? = some s) :
    d.sessions.get? s.id = some s := by
  obtain ⟨t, _, found⟩ := Option.bind_eq_some_iff.mp wanted
  rwa [Sessions.id_of_get? found]

theorem active?_of_wanted? {t : TerminalId} (selected : d.wanted?.map (·.id) = some t) :
    d.roster.active? = some t := by
  obtain ⟨s, wanted, rfl⟩ := Option.map_eq_some_iff.mp selected
  obtain ⟨t, active, found⟩ := Option.bind_eq_some_iff.mp wanted
  rwa [Sessions.id_of_get? found]

theorem Settled.coherent_refreshed (s : d.Settled) : d.refreshed.Coherent :=
  ⟨⟨s.wellFormed, s.distinct, s.owners, s.sizes⟩, wanted?_id fun _ => s.contains_of_active?⟩

theorem Coherent.refreshed_eq (c : d.Coherent) : d.refreshed = d := by
  have same := (wanted?_id fun _ => c.contains_of_active?).trans c.view.symm
  simp only [refreshed, same]

/-! ### Forgetting terminals -/

theorem get?_foldl_destroy (ts : List TerminalId) (ss : Sessions) (u : TerminalId) :
    (ts.foldl Sessions.destroy ss).get? u = if u ∈ ts then none else ss.get? u := by
  induction ts generalizing ss with
  | nil => simp
  | cons t ts ih =>
    rw [List.foldl_cons, ih]
    by_cases same : u = t
    · simp [same]
    · simp [same, Sessions.get?_destroy_of_ne ss same]

theorem capacity_foldl_destroy (ts : List TerminalId) (ss : Sessions) :
    (ts.foldl Sessions.destroy ss).capacity = ss.capacity := by
  induction ts generalizing ss with
  | nil => rfl
  | cons t ts ih => exact ih (ss.destroy t)

theorem owner?_foldl_destroy (ts : List TerminalId) (ss : Sessions) (u : TerminalId) :
    (ts.foldl Sessions.destroy ss).owner? u = if u ∈ ts then none else ss.owner? u := by
  rw [Sessions.owner?, get?_foldl_destroy]
  split <;> rfl

theorem nodup_foldl_destroy {ss : Sessions} (distinct : ss.ids.Nodup) (ts : List TerminalId) :
    (ts.foldl Sessions.destroy ss).ids.Nodup := by
  induction ts generalizing ss with
  | nil => exact distinct
  | cons t ts ih => exact ih (Sessions.nodup_ids_destroy distinct t)

theorem get?_foldl_erase {α : Type} (ts : List TerminalId) (sizes : Table TerminalId α)
    (u : TerminalId) :
    (ts.foldl Table.erase sizes).get? u = if u ∈ ts then none else sizes.get? u := by
  induction ts generalizing sizes with
  | nil => simp
  | cons t ts ih =>
    rw [List.foldl_cons, ih]
    by_cases same : u = t
    · simp [same]
    · simp [same, Table.get?_erase_of_ne sizes same]

/-- The roster lets go of terminals, the view leaves them and their sessions end. -/
theorem Settled.coherent_released {ts : List TerminalId} (s : d.Settled) (wf : r'.WellFormed)
    (left : ∀ id t, r'.Holds id t ↔ d.roster.Holds id t ∧ t ∉ ts)
    (released : d₁ = { d with roster := r' }) : (ts.foldl forgotten d₁.refreshed).Coherent := by
  subst released
  rw [foldl_forgotten]
  refine ⟨⟨wf, nodup_foldl_destroy s.distinct ts, ?_, ?_⟩, ?_⟩
  · intro t id
    show (ts.foldl Sessions.destroy d.sessions).owner? t = some id ↔ r'.Holds id t
    rw [owner?_foldl_destroy, left, ← s.owners]
    by_cases gone : t ∈ ts <;> simp [gone]
  · intro t kept
    replace kept : ((ts.foldl Table.erase d.sizes).get? t).isSome := kept
    show (ts.foldl Sessions.destroy d.sessions).contains t = true
    rw [get?_foldl_erase] at kept
    by_cases gone : t ∈ ts
    · simp [gone] at kept
    · simp only [gone, if_false] at kept
      rw [Sessions.contains_eq, owner?_foldl_destroy, if_neg gone, ← Sessions.contains_eq]
      exact s.sizes t kept
  · -- The view is refreshed before the sessions end, so what becomes active is live still.
    refine wanted?_id (d := { d with roster := r' }) fun t active => ?_
    obtain ⟨id, _, held⟩ := Roster.holds_of_active? active
    exact s.contains_iff_holds.mpr ⟨id, ((left id t).mp held).1⟩

/-! ### Every move keeps a desk coherent -/

theorem Settled.withRoster (s : d.Settled) (wf : r'.WellFormed)
    (held : ∀ id t, r'.Holds id t ↔ d.roster.Holds id t) :
    ({ d with roster := r' } : Desk).Settled where
  wellFormed := wf
  distinct := s.distinct
  owners t id := (s.owners t id).trans (held id t).symm
  sizes := s.sizes

theorem Settled.withSessions {sessions : Sessions} (s : d.Settled)
    (ids : sessions.ids = d.sessions.ids)
    (owners : ∀ t, sessions.owner? t = d.sessions.owner? t) :
    ({ d with sessions } : Desk).Settled where
  wellFormed := s.wellFormed
  distinct := ids ▸ s.distinct
  owners t id := (owners t).symm ▸ s.owners t id
  sizes t kept := by
    rw [Sessions.contains_eq, owners, ← Sessions.contains_eq]
    exact s.sizes t kept

theorem Settled.grown {host : HostId} {t : TerminalId} (s : d.Settled)
    (fresh : d.sessions.contains t = false) (wf : r'.WellFormed)
    (held : ∀ id u, r'.Holds id u ↔ d.roster.Holds id u ∨ id = host ∧ u = t) :
    ({ d with roster := r', sessions := d.sessions.create t host } : Desk).Settled where
  wellFormed := wf
  distinct := Sessions.nodup_ids_create s.distinct t host
  owners u id := by
    rw [Sessions.owner?_create fresh, held, ← s.owners]
    by_cases same : u = t
    · subst same
      have unowned : d.sessions.owner? u = none := by simpa [Sessions.contains_eq] using fresh
      simp [unowned, eq_comm]
    · simp [same]
  sizes u kept := by
    have live := s.sizes u kept
    rw [Sessions.contains_eq] at live ⊢
    rw [Sessions.owner?_create fresh]
    by_cases same : u = t <;> simp [same, live]

theorem Settled.holds_left {host : HostId} {removed : RemovedHost} (s : d.Settled)
    (outcome : d.roster.removeHost host = (some removed, r')) (id : HostId) (t : TerminalId) :
    r'.Holds id t ↔ d.roster.Holds id t ∧ t ∉ removed.host.terminals := by
  have held := d.roster.holds_removeHost (i := id) (u := t) host
  rw [outcome] at held
  refine held.trans (and_congr_right fun here => ?_)
  rw [← Roster.holds_iff (Roster.host?_of_removeHost outcome)]
  constructor
  · intro other there
    exact other (s.exclusive here there)
  · rintro gone rfl
    exact gone here

theorem Settled.holds_closed {host : HostId} {slot : SlotId} {closed : ClosedSlot} (s : d.Settled)
    (outcome : d.roster.closeSlot host slot = (some closed, r')) (id : HostId) (t : TerminalId) :
    r'.Holds id t ↔ d.roster.Holds id t ∧ t ∉ [closed.terminal] := by
  obtain ⟨held, others⟩ := Roster.holds_closeSlot s.wellFormed outcome
  rw [others, List.mem_singleton]
  refine and_congr_right fun here => not_congr ⟨And.right, ?_⟩
  rintro rfl
  exact ⟨s.exclusive here held, rfl⟩

theorem Coherent.terminalAdded {host : HostId} {t : TerminalId} {slot : SlotId}
    {requested selected : Bool} (c : d.Coherent) (fresh : d.sessions.contains t = false)
    (outcome : d.roster.attach host t = (.attached slot requested selected, r'))
    (grown : d₁ = { d with roster := r', sessions := d.sessions.create t host }) :
    (if selected then d₁.refreshed else d₁).Coherent := by
  have wf := c.wellFormed.attach host t
  rw [outcome] at wf
  have settled := c.grown fresh wf fun id u => Roster.holds_attach c.wellFormed outcome
  subst grown
  cases selected with
  | true => exact settled.coherent_refreshed
  | false => exact ⟨settled, c.view.trans (Roster.active?_attach c.wellFormed outcome).symm⟩

theorem Coherent.move (c : d.Coherent) (m : Move op d d' acts) : d'.Coherent := by
  cases m with
  | ignored | terminalRefused | typed | directoryOpened | fileOpened | directoryAsked
  | noticed => exact c
  | hostConnected outcome grown =>
    rename_i info _
    obtain rfl := congrArg Prod.snd outcome
    subst grown
    exact ⟨c.withRoster (c.wellFormed.addHost info) fun _ _ => d.roster.holds_addHost info,
      c.view.trans (Roster.active?_addHost c.wellFormed info).symm⟩
  | hostDisconnected outcome left =>
    have wf := congrArg Prod.snd outcome ▸ c.wellFormed.removeHost _
    exact c.coherent_released wf (c.holds_left outcome) left
  | terminalAdded fresh outcome grown => exact c.terminalAdded fresh outcome grown
  | terminalOutput live =>
    rename_i t output
    exact ⟨c.withSessions (Sessions.ids_update _ t fun _ => rfl)
      fun u => Sessions.owner?_append d.sessions t u output.bytes, c.view⟩
  | terminalClosed why outcome left =>
    have wf := congrArg Prod.snd outcome ▸ c.wellFormed.closeSlot _ _
    exact c.coherent_released wf (c.holds_closed outcome) left
  | unheldClosed unheld =>
    rename_i t
    -- No host holds the terminal, so the same roster lets go of it and the view stays.
    have left : ∀ id u, d.roster.Holds id u ↔ d.roster.Holds id u ∧ u ∉ [t] := by
      intro id u
      rw [List.mem_singleton]
      refine (and_iff_left_of_imp ?_).symm
      rintro held rfl
      exact Roster.not_holds_of_locate? unheld held
    have released := c.coherent_released c.wellFormed left rfl
    rwa [c.refreshed_eq] at released
  | directoryListing listed =>
    rename_i t path files _
    subst listed
    exact ⟨c.withSessions (Sessions.ids_update _ t fun _ => rfl)
      fun u => Sessions.owner?_list d.sessions t u path files, c.view⟩
  | hostSelected outcome moved =>
    rename_i host _
    obtain rfl := congrArg Prod.snd outcome
    subst moved
    exact (c.withRoster (c.wellFormed.selectHost host)
      fun _ _ => d.roster.holds_selectHost host).coherent_refreshed
  | terminalRequested outcome asked =>
    rename_i host _ _
    obtain rfl := congrArg Prod.snd outcome
    subst asked
    exact ⟨c.withRoster (c.wellFormed.request host)
      fun _ _ => Roster.holds_request c.wellFormed host,
      c.view.trans (Roster.active?_request c.wellFormed host).symm⟩
  | slotSelected outcome moved =>
    rename_i host slot _ _
    obtain rfl := congrArg Prod.snd outcome
    subst moved
    exact (c.withRoster (c.wellFormed.selectSlot host slot)
      fun _ _ => Roster.holds_selectSlot c.wellFormed host slot).coherent_refreshed
  | slotToggled outcome flipped =>
    rename_i host slot _ _ _
    have active := Roster.active?_toggle c.wellFormed outcome
    obtain rfl := congrArg Prod.snd outcome
    subst flipped
    exact ⟨c.withRoster (c.wellFormed.selectSlot host slot)
      fun _ _ => Roster.holds_selectSlot c.wellFormed host slot, c.view.trans active.symm⟩
  | resized live other =>
    rename_i t size
    refine ⟨⟨c.wellFormed, c.distinct, c.owners, fun u kept => ?_⟩, c.view⟩
    by_cases same : u = t
    · exact same ▸ live
    · exact c.sizes u (by rwa [Table.get?_put_of_ne _ _ same] at kept)

/-! ### Every run keeps a desk coherent -/

theorem Coherent.asks {more : List Act} {greeted : Option (HostId × Roster)} (c : d.Coherent)
    (a : Asks greeted d d' more) : d'.Coherent := by
  cases a with
  | nothing => exact c
  | terminal m => exact c.move m

theorem Coherent.handle (c : d.Coherent) (op : Operation) : (handle op d).1.Coherent := by
  obtain ⟨d₁, acts, d₂, more, m, asks, e⟩ := handle_moves op d
  rw [e.eq]
  exact ((c.move m).asks asks).withBus _

theorem Coherent.after (c : d.Coherent) (ops : List Operation) : (d.after ops).Coherent := by
  induction ops generalizing d with
  | nil => exact c
  | cons op ops ih => exact ih (c.handle op)

theorem coherent_start (settings : Settings) : (start settings).1.Coherent where
  wellFormed := Roster.wellFormed_start settings.cap
  distinct := List.nodup_nil
  owners t id := by simp [start, Sessions.owner?, Sessions.get?, Roster.Holds, Roster.host?]
  sizes t kept := by simp [start] at kept
  view := rfl

/-! ### What coherent desks look like -/

theorem Settled.mem_ids_iff {t : TerminalId} (s : d.Settled) :
    t ∈ d.sessions.ids ↔ ∃ id, d.roster.Holds id t := by
  rw [Sessions.mem_ids, s.contains_iff_holds]

theorem Settled.holds_of_mem {t : TerminalId} {h : Host} (s : d.Settled) (mem : h ∈ d.roster.hosts)
    (inside : t ∈ h.terminals) : d.roster.Holds h.id t :=
  ⟨h, Roster.host?_of_mem s.wellFormed.distinct mem, inside⟩

theorem Settled.nodup_terminals (s : d.Settled) :
    (d.roster.hosts.flatMap Host.terminals).Nodup := by
  rw [List.nodup_flatMap]
  refine ⟨fun h mem => (s.wellFormed.tidy h mem).distinct, ?_⟩
  apply List.Pairwise.imp_of_mem _ (List.pairwise_map.mp s.wellFormed.distinct)
  intro h h' mem mem' differ t inside inside'
  exact differ (s.exclusive (s.holds_of_mem mem inside) (s.holds_of_mem mem' inside'))

theorem Settled.perm_ids (s : d.Settled) :
    d.sessions.ids.Perm (d.roster.hosts.flatMap Host.terminals) := by
  rw [List.perm_ext_iff_of_nodup s.distinct s.nodup_terminals]
  intro t
  rw [s.mem_ids_iff, List.mem_flatMap]
  constructor
  · rintro ⟨id, h, found, inside⟩
    exact ⟨h, Roster.mem_of_host? found, inside⟩
  · rintro ⟨h, mem, inside⟩
    exact ⟨h.id, s.holds_of_mem mem inside⟩

theorem Settled.slot_of_session {session : Session} (s : d.Settled)
    (live : session ∈ d.sessions.live) :
    ∃ h ∈ d.roster.hosts, ∃ slot ∈ h.slots,
      session.host = h.id ∧ slot.terminal? = some session.id ∧
        ∀ h' ∈ d.roster.hosts, ∀ slot' ∈ h'.slots, slot'.terminal? = some session.id →
          h' = h ∧ slot' = slot := by
  have owner : d.sessions.owner? session.id = some session.host := by
    simp [Sessions.owner?, Sessions.get?_of_mem s.distinct live]
  obtain ⟨h, found, inside⟩ := (s.owners _ _).mp owner
  have held : d.roster.Holds session.host session.id := ⟨h, found, inside⟩
  obtain ⟨slot, mem, bound⟩ := Host.mem_terminals.mp inside
  have host := Roster.mem_of_host? found
  refine ⟨h, host, slot, mem, (Roster.id_of_host? found).symm, bound, ?_⟩
  intro h' host' slot' mem' bound'
  have held' := s.holds_of_mem host' (Host.mem_terminals.mpr ⟨slot', mem', bound'⟩)
  have same : h' = h := by
    have found' := Roster.host?_of_mem s.wellFormed.distinct host'
    rw [s.exclusive held' held, found] at found'
    exact (Option.some.inj found').symm
  subst same
  exact ⟨rfl, (s.wellFormed.tidy h' host).eq_of_terminal? mem' mem bound' bound⟩

/-- After every run of operations: the sessions are those of the bound terminals, none of which is
bound twice; each session is on the host with the slot of its terminal; the selected terminal of the
current host is presented, and it is live; and a size is kept of live terminals only. -/
theorem after_coherence (settings : Settings) (ops : List Operation) :
    let d := (start settings).1.after ops
    d.sessions.ids.Perm (d.roster.hosts.flatMap Host.terminals) ∧
    d.sessions.ids.Nodup ∧
    (∀ s ∈ d.sessions.live, ∃ h ∈ d.roster.hosts, ∃ slot ∈ h.slots,
      s.host = h.id ∧ slot.terminal? = some s.id ∧
        ∀ h' ∈ d.roster.hosts, ∀ slot' ∈ h'.slots, slot'.terminal? = some s.id →
          h' = h ∧ slot' = slot) ∧
    d.view.current = d.roster.active? ∧
    (∀ t, d.view.current = some t → t ∈ d.sessions.ids) ∧
    (∀ t ∈ d.sizes.keys, t ∈ d.sessions.ids) := by
  intro d
  have c : d.Coherent := (coherent_start settings).after ops
  refine ⟨c.perm_ids, c.distinct, fun _ => c.slot_of_session, c.view, ?_, ?_⟩
  · intro t presented
    exact Sessions.mem_ids.mpr (c.contains_of_active? (c.view.symm.trans presented))
  · intro t mem
    exact Sessions.mem_ids.mpr (c.sizes t (Table.isSome_get? mem))

end Switchboard.Desk
