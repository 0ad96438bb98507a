import Switchboard.Proofs.Roster.Holdings
import Switchboard.Proofs.Roster.Outline

/-!
# Rosters follow their outlines

Every change of a well-formed roster is a change of its outline by the rules of outlines
(`edit_outline`), and so is every run of changes, answer for answer (`editAll_follows_outline`).
-/

namespace Switchboard

variable {r : Roster} {id : HostId} {h : Host} {bs fs : List Slot} {s : Slot} {t : TerminalId}
  {slot : SlotId} {cap next : Nat} {face : Face}

theorem Slot.map_fst_bound? (s : Slot) : s.bound?.map Prod.fst = s.terminal? := by
  cases state : s.state <;> simp [bound?, terminal?, state]

theorem Slot.bound?_eq_none_iff : s.bound? = none ↔ s.isFree = true := by
  cases state : s.state <;> simp [bound?, isFree, terminal?, state]

theorem Slot.terminal?_of_bound? {p : TerminalId × Face} (bound : s.bound? = some p) :
    s.terminal? = some p.1 := by
  rw [← s.map_fst_bound?, bound, Option.map_some]

namespace Host

/-! ### The terminals of an outline -/

theorem map_fst_outline (h : Host) : h.outline.terminals.map Prod.fst = h.terminals := by
  simp only [outline, terminals, List.map_filterMap, Slot.map_fst_bound?]

@[simp]
theorem info_outline (h : Host) : h.outline.info = h.info := rfl

@[simp]
theorem pending_outline (h : Host) : h.outline.pending = h.isActivating := rfl

@[simp]
theorem selected_outline (h : Host) : h.outline.selected = h.active? := rfl

theorem length_outline (h : Host) : h.outline.terminals.length = h.sessionCount := by
  rw [sessionCount, ← map_fst_outline, List.length_map]

theorem filterMap_bound?_of_free (free : ∀ f ∈ fs, f.isFree = true) :
    fs.filterMap Slot.bound? = [] :=
  List.filterMap_eq_nil_iff.mpr fun f mem => Slot.bound?_eq_none_iff.mpr (free f mem)

theorem Arranged.outline_terminals (a : h.Arranged bs fs) :
    h.outline.terminals = bs.filterMap Slot.bound? := by
  rw [outline, a.slots, List.filterMap_append, filterMap_bound?_of_free a.free, List.append_nil]

theorem getLast?_filterMap_bound? (bound : ∀ s ∈ bs, s.isFree = false) :
    (bs.filterMap Slot.bound?).getLast?.map Prod.fst = bs.getLast?.bind Slot.terminal? := by
  rcases List.eq_nil_or_concat bs with rfl | ⟨init, s, rfl⟩
  · rfl
  · rw [List.concat_eq_append] at bound ⊢
    have busy : s.bound? ≠ none := by
      rw [ne_eq, Slot.bound?_eq_none_iff, bound s (by simp)]
      decide
    obtain ⟨p, there⟩ := Option.ne_none_iff_exists'.mp busy
    simp [there, Slot.terminal?_of_bound? there]

theorem find?_outline (o : h.Ordered) (mem : s ∈ h.slots) (bound : s.state = .bound t face) :
    h.outline.terminals.find? (·.1 = t) = some (t, face) := by
  have inside : (t, face) ∈ h.outline.terminals :=
    List.mem_filterMap.mpr ⟨s, mem, by simp [Slot.bound?, bound]⟩
  have distinct : (h.outline.terminals.map Prod.fst).Nodup := h.map_fst_outline ▸ o.distinct
  exact find?_key_of_mem distinct inside

/-! ### The selected terminal -/

theorem Ordered.active?_eq_some_iff (o : h.Ordered) (mem : s ∈ h.slots)
    (bound : s.terminal? = some t) : h.active? = some t ↔ h.selected = some s.id := by
  constructor
  · intro active
    obtain ⟨x, found, there⟩ := Option.bind_eq_some_iff.mp active
    obtain ⟨id, selected, found⟩ := Option.bind_eq_some_iff.mp found
    obtain ⟨inside, rfl⟩ := slot?_eq_some found
    rw [selected, o.eq_of_terminal? inside mem there bound]
  · intro selected
    rw [active?_of_mem o.numbered mem selected, bound]

theorem Ordered.active?_eq_none_iff (o : h.Ordered) : h.active? = none ↔ h.selected = none := by
  refine ⟨fun inactive => ?_, active?_eq_none⟩
  by_contra some
  obtain ⟨id, selected⟩ := Option.ne_none_iff_exists'.mp some
  obtain ⟨s, mem, rfl, bound⟩ := o.selected_bound id selected
  obtain ⟨t, there⟩ := Slot.isFree_eq_false_iff.mp bound
  rw [(o.active?_eq_some_iff mem there).mpr selected] at inactive
  cases inactive

/-- Another slot is not bound to the same terminal. -/
theorem Ordered.bound?_ne {x : Slot} {p : TerminalId × Face} (o : h.Ordered) (hx : x ∈ h.slots)
    (mem : s ∈ h.slots) (bound : s.terminal? = some t) (apart : x.id ≠ s.id)
    (there : x.bound? = some p) : p.1 ≠ t := by
  rintro rfl
  exact apart (congrArg Slot.id
    (o.eq_of_terminal? hx mem (Slot.terminal?_of_bound? there) bound))

/-! ### Outlines after changes of a row -/

theorem isActivating_settle (h : Host) (cap next : Nat) :
    (h.settle cap next).1.isActivating = h.isActivating := by
  rw [isActivating, isActivating, activating?_settle]

theorem outline_terminals_settle (h : Host) (cap next : Nat) :
    (h.settle cap next).1.outline.terminals = h.outline.terminals := by
  simp only [outline, settle]
  split
  · split
    · rfl
    · simp [Slot.bound?, Slot.offer]
  · simp only [List.filterMap_filter]
    apply List.filterMap_congr
    intro x _
    cases state : x.state <;> simp [Slot.bound?, state]

/-- The free slot that settling adds or drops is not in the outline. -/
theorem Ordered.outline_settle (o : h.Ordered) (below : ∀ s ∈ h.slots, s.id.number < next) :
    (h.settle cap next).1.outline = h.outline := by
  have active : (h.settle cap next).1.active? = h.active? := by
    cases selected : h.selected with
    | none => rw [active?_eq_none selected, active?_eq_none (by rwa [selected_settle])]
    | some id =>
      exact active?_of_mem_of_mem o (by simp [selected]) (numbered_settle o.numbered below)
        (selected_settle h cap next) fun s mem bound => mem_settle_of_bound mem bound
  have terminals := h.outline_terminals_settle cap next
  simp only [outline] at terminals ⊢
  rw [info_settle, terminals, isActivating_settle, active]

theorem Tidy.outline_answered (tidy : h.Tidy cap) (mem : s ∈ h.slots)
    (waits : s.state = .activating) :
    (Roster.answered h s t).outline =
      { h.outline with
        terminals := h.outline.terminals ++ [(t, .terminal)]
        pending := false
        selected := some t } := by
  obtain ⟨bs, a⟩ := tidy.arranged_of_free mem (Slot.isFree_of_state (Or.inr waits))
  have answered : (Roster.answered h s t).Arranged (bs ++ [⟨s.id, .bound t .terminal⟩]) [] :=
    (a.setState_bind tidy.numbered (.bound t .terminal) rfl).select (some s.id)
  have terminals : (Roster.answered h s t).outline.terminals =
      h.outline.terminals ++ [(t, .terminal)] := by
    rw [answered.outline_terminals, List.filterMap_append, ← a.outline_terminals]
    rfl
  have pending : (Roster.answered h s t).isActivating = false := by
    rw [isActivating, tidy.activating?_answered mem waits, Option.isSome_none]
  have active : (Roster.answered h s t).active? = some t := by
    refine active?_of_mem (s := ⟨s.id, .bound t .terminal⟩) ?_ ?_ rfl
    · rw [Roster.answered, map_id_setState]
      exact tidy.numbered
    · rw [answered.slots]
      simp
  simp only [outline] at terminals ⊢
  rw [terminals, pending, active]
  rfl

theorem Tidy.outline_joined (tidy : h.Tidy cap) (quiet : h.isActivating = false)
    (room : h.sessionCount < cap) (fresh : t ∉ h.terminals) (unused : slot ∉ h.slots.map Slot.id) :
    (Roster.joined h slot t).outline =
      { h.outline with
        terminals := h.outline.terminals ++ [(t, .terminal)]
        selected := h.active?.or (some t) } := by
  obtain ⟨bs, fs, a, short⟩ := tidy.arranged
  have joined : (Roster.joined h slot t).Arranged (bs ++ [.ofTerminal slot t]) fs :=
    (a.insertBound rfl).select _
  have numbered := (tidy.insert quiet room fresh unused).numbered
  have terminals : (Roster.joined h slot t).outline.terminals =
      h.outline.terminals ++ [(t, .terminal)] := by
    rw [joined.outline_terminals, List.filterMap_append, ← a.outline_terminals]
    rfl
  have pending : (Roster.joined h slot t).isActivating = h.isActivating := by
    rw [isActivating, isActivating, tidy.activating?_joined]
  have active : (Roster.joined h slot t).active? = h.active?.or (some t) := by
    cases before : h.selected with
    | none =>
      rw [active?_eq_none before, Option.none_or]
      refine active?_of_mem (s := .ofTerminal slot t) numbered ?_ ?_
      · rw [joined.slots]
        simp
      · simp [Roster.joined, before, Slot.ofTerminal]
    | some id =>
      have some : h.active?.isSome := by
        rw [Option.isSome_iff_ne_none, ne_eq, tidy.active?_eq_none_iff, before]
        exact Option.some_ne_none id
      rw [Option.or_of_isSome some]
      refine active?_of_mem_of_mem tidy.toOrdered (by simp [before]) numbered ?_
        fun s mem _ => mem_joined mem
      simp [Roster.joined, before]
  simp only [outline] at terminals ⊢
  rw [terminals, pending, active]
  rfl

theorem Tidy.outline_activated (tidy : h.Tidy cap) (mem : s ∈ h.slots) (idle : s.state = .idle) :
    (h.setState s.id .activating).outline = { h.outline with pending := true } := by
  obtain ⟨bs, a⟩ := tidy.arranged_of_free mem (Slot.isFree_of_state (Or.inl idle))
  have activated := a.setState_free tidy.numbered .activating rfl
  have terminals : (h.setState s.id .activating).outline.terminals = h.outline.terminals := by
    rw [activated.outline_terminals, a.outline_terminals]
  have pending : (h.setState s.id .activating).isActivating = true := by
    rw [isActivating, tidy.activating?_activated mem idle, Option.isSome_some]
  have active : (h.setState s.id .activating).active? = h.active? :=
    active?_setState tidy.numbered mem (by simp [Slot.terminal?, idle])
  simp only [outline] at terminals ⊢
  rw [terminals, pending, active]
  rfl

theorem Tidy.outline_flipped (tidy : h.Tidy cap) (mem : s ∈ h.slots)
    (bound : s.state = .bound t face) :
    (h.setState s.id (.bound t face.flip)).outline =
      { h.outline with
        terminals := h.outline.terminals.map fun p => if p.1 = t then (t, face.flip) else p } := by
  have there : s.terminal? = some t := by simp [Slot.terminal?, bound]
  have terminals : (h.setState s.id (.bound t face.flip)).slots.filterMap Slot.bound? =
      (h.slots.filterMap Slot.bound?).map fun p => if p.1 = t then (t, face.flip) else p := by
    simp only [setState, List.filterMap_map, List.map_filterMap]
    apply List.filterMap_congr
    intro x hx
    by_cases same : x.id = s.id
    · rw [List.inj_on_of_nodup_map tidy.numbered hx mem same]
      simp [Slot.bound?, bound]
    · cases other : x.bound? with
      | none => simp [same, other]
      | some p => simp [same, other, tidy.bound?_ne hx mem there same other]
  have pending : (h.setState s.id (.bound t face.flip)).isActivating = h.isActivating := by
    rw [isActivating, isActivating, tidy.activating?_flip mem there face.flip]
  have active : (h.setState s.id (.bound t face.flip)).active? = h.active? :=
    active?_setState tidy.numbered mem (by simp [Slot.terminal?, bound])
  simp only [outline]
  rw [terminals, pending, active]
  rfl

theorem Tidy.outline_selected (tidy : h.Tidy cap) (mem : s ∈ h.slots)
    (bound : s.terminal? = some t) :
    outline { h with selected := some s.id } = { h.outline with selected := some t } := by
  have active : active? { h with selected := some s.id } = some t :=
    (active?_of_mem (h := { h with selected := some s.id }) tidy.numbered mem rfl).trans bound
  simp only [outline]
  rw [active]
  rfl

theorem Ordered.outline_removeSlot (o : h.Ordered) (mem : s ∈ h.slots)
    (bound : s.terminal? = some t) :
    (h.removeSlot s.id).outline.terminals = h.outline.terminals.filter (·.1 ≠ t) := by
  simp only [outline, removeSlot, List.filterMap_filter, List.filter_filterMap]
  apply List.filterMap_congr
  intro x hx
  by_cases same : x.id = s.id
  · rw [List.inj_on_of_nodup_map o.numbered hx mem same]
    cases there : s.bound? with
    | none => simp
    | some p =>
      rw [Slot.terminal?_of_bound? there] at bound
      simp [Option.some.inj bound, Option.filter_some]
  · cases other : x.bound? with
    | none => simp
    | some p => simp [same, o.bound?_ne hx mem bound same other, Option.filter_some]

theorem Ordered.lastBound?_removeSlot (o : h.Ordered) (mem : s ∈ h.slots)
    (bound : s.terminal? = some t) :
    (h.removeSlot s.id).lastBound?.bind Slot.terminal? =
      (h.outline.terminals.filter (·.1 ≠ t)).getLast?.map Prod.fst := by
  obtain ⟨bs, fs, a, short, inside⟩ := o.arranged_of_bound mem bound
  have removed := a.removeSlot o.numbered inside
  rw [← o.outline_removeSlot mem bound, removed.outline_terminals,
    getLast?_filterMap_bound? removed.bound, removed.lastBound?]

theorem Tidy.outline_bereft (tidy : h.Tidy cap) (mem : s ∈ h.slots)
    (bound : s.terminal? = some t) :
    (Roster.bereft h s.id).outline =
      { h.outline with
        terminals := h.outline.terminals.filter (·.1 ≠ t)
        selected := (h.outline.terminals.filter (·.1 ≠ t)).getLast?.map Prod.fst } := by
  have terminals := tidy.outline_removeSlot mem bound
  have pending : (h.removeSlot s.id).isActivating = h.isActivating :=
    congrArg Option.isSome (tidy.activating?_bereft mem bound)
  have active : (Roster.bereft h s.id).active? =
      (h.outline.terminals.filter (·.1 ≠ t)).getLast?.map Prod.fst := by
    rw [← tidy.lastBound?_removeSlot mem bound]
    cases last : (h.removeSlot s.id).lastBound? with
    | none => exact active?_eq_none (by simp [Roster.bereft, last])
    | some x =>
      refine active?_of_mem (tidy.remove mem bound).numbered ?_ (by simp [Roster.bereft, last])
      exact (List.mem_filter.mp (List.mem_of_getLast? last)).1
  simp only [outline] at terminals active ⊢
  rw [active]
  simp only [Roster.bereft]
  rw [terminals, ← pending]
  rfl

/-- Below the cap a row that does not wait has a slot to offer. -/
theorem Tidy.exists_idle (tidy : h.Tidy cap) (quiet : h.isActivating = false)
    (room : h.sessionCount < cap) : ∃ s ∈ h.slots, s.state = .idle := by
  have one := tidy.free_count
  rw [if_pos room] at one
  obtain ⟨f, only⟩ := List.length_eq_one_iff.mp one
  obtain ⟨mem, free⟩ := List.mem_filter.mp (only ▸ List.mem_singleton_self f)
  exact ⟨f, mem, (Slot.idle_or_activating free).resolve_right
    (isActivating_eq_false_iff.mp quiet f mem)⟩

end Host

namespace Roster

theorem host?_outline (r : Roster) (id : HostId) :
    r.outline.host? id = (r.host? id).map Host.outline := List.find?_map

theorem outline_put (r : Roster) (h : Host) : (r.put h).outline = r.outline.put h.outline := by
  have each : ∀ x : Host, Host.outline (if x.id = h.id then h else x) =
      if x.outline.info.id = h.outline.info.id then h.outline else x.outline := by
    intro x
    exact apply_ite Host.outline _ _ _
  simp only [outline, put, Outline.put, List.map_map, Function.comp_def, each]

theorem outline_newcomer (r : Roster) (info : HostInfo) :
    (r.newcomer info).1.outline = { info } := by
  have terminals :=
    Host.outline_terminals_settle { info, slots := [], selected := none } r.cap r.next
  have active : (r.newcomer info).1.active? = none :=
    Host.active?_eq_none (Host.selected_settle _ _ _)
  simp only [Host.outline] at terminals ⊢
  rw [active]
  simp only [newcomer]
  rw [terminals, Host.isActivating_settle, Host.info_settle]
  rfl

theorem stateAt?_of_mem (found : r.host? id = some h) (numbered : (h.slots.map Slot.id).Nodup)
    (mem : s ∈ h.slots) : r.stateAt? id s.id = some s.state := by
  simp [stateAt?, found, Host.slot?_of_mem numbered mem]

theorem terminalAt?_of_mem (found : r.host? id = some h) (numbered : (h.slots.map Slot.id).Nodup)
    (mem : s ∈ h.slots) : r.terminalAt? id s.id = s.terminal? := by
  simp [terminalAt?, found, Host.slot?_of_mem numbered mem]

theorem outline_putSettled (o : h.Ordered) (below : ∀ s ∈ h.slots, s.id.number < r.next) :
    (r.putSettled h).outline = r.outline.put h.outline := by
  have settled : (h.settle r.cap r.next).1.outline = h.outline := o.outline_settle below
  rw [← settled, ← outline_put]
  rfl

theorem stateAt?_of_bound (wf : r.WellFormed) (found : r.host? id = some (h.settle cap next).1)
    (mem : s ∈ h.slots) (bound : s.isFree = false) : r.stateAt? id s.id = some s.state :=
  stateAt?_of_mem found (wf.tidy_of_host? found).numbered (Host.mem_settle_of_bound mem bound)

theorem WellFormed.number_lt (wf : r.WellFormed) (found : r.host? id = some h)
    (mem : slot ∈ h.slots.map Slot.id) : slot.number < r.next := by
  obtain ⟨s, inside, rfl⟩ := List.mem_map.mp mem
  exact wf.below h (mem_of_host? found) s inside

theorem WellFormed.outline_answered (wf : r.WellFormed) (found : r.host? id = some h)
    (fresh : t ∉ h.terminals) (mem : s ∈ h.slots) (waits : s.state = .activating) :
    (r.putSettled (answered h s t)).outline =
      r.outline.put { h.outline with
        terminals := h.outline.terminals ++ [(t, .terminal)]
        pending := false
        selected := some t } := by
  have tidy := wf.tidy_of_host? found
  have ordered : (answered h s t).Ordered := (tidy.answer mem waits fresh).toOrdered
  rw [outline_putSettled ordered fun x hx => wf.number_lt found (id_mem_answered hx),
    tidy.outline_answered mem waits]

theorem WellFormed.outline_joined (wf : r.WellFormed) (found : r.host? id = some h)
    (fresh : t ∉ h.terminals) (quiet : h.isActivating = false) (room : h.sessionCount < r.cap) :
    ({ r with next := r.next + 1 }.putSettled (joined h ⟨r.next⟩ t)).outline =
      r.outline.put { h.outline with
        terminals := h.outline.terminals ++ [(t, .terminal)]
        pending := false
        selected := h.active?.or (some t) } := by
  have tidy := wf.tidy_of_host? found
  have unused := wf.fresh (mem_of_host? found)
  have ordered : (joined h ⟨r.next⟩ t).Ordered := (tidy.insert quiet room fresh unused).toOrdered
  rw [outline_putSettled ordered, tidy.outline_joined quiet room fresh unused, ← quiet]
  · rfl
  · intro x hx
    rcases id_mem_joined hx with old | new
    · exact Nat.lt_succ_of_lt (wf.number_lt found old)
    · simp [new]

theorem WellFormed.outline_bereft (wf : r.WellFormed) (found : r.host? id = some h)
    (mem : s ∈ h.slots) (bound : s.terminal? = some t) :
    (r.putSettled (bereft h s.id)).outline =
      r.outline.put { h.outline with
        terminals := h.outline.terminals.filter (·.1 ≠ t)
        selected := (h.outline.terminals.filter (·.1 ≠ t)).getLast?.map Prod.fst } := by
  have tidy := wf.tidy_of_host? found
  have ordered : (bereft h s.id).Ordered := (tidy.remove mem bound).toOrdered
  rw [outline_putSettled ordered, tidy.outline_bereft mem bound]
  intro x hx
  exact wf.number_lt found (List.mem_map_of_mem (List.mem_filter.mp hx).1)

/-! ### One change -/

theorem addHost_outline (r : Roster) (info : HostInfo) :
    r.outline.addHost info = (r.answer (.addHost info), (r.addHost info).2.outline) := by
  rcases r.addHost_cases info with ⟨known, same⟩ | ⟨fresh, _⟩
  · simp [Outline.addHost, answer, host?_outline, known, same]
  · simp only [Outline.addHost, answer, host?_outline, fresh, addHost_of_fresh fresh]
    simp [outline, outline_newcomer]

theorem removeHost_outline (r : Roster) (id : HostId) :
    r.outline.removeHost id = (r.answer (.removeHost id), (r.removeHost id).2.outline) := by
  cases found : r.host? id with
  | none => simp [Outline.removeHost, answer, host?_outline, found, removeHost_of_unknown found]
  | some h =>
    simp only [Outline.removeHost, answer, host?_outline, found, removeHost_of_known found,
      Option.map_some]
    simp only [outline, List.filter_map]
    rfl

theorem selectHost_outline (r : Roster) (id : HostId) :
    r.outline.selectHost id = (r.answer (.selectHost id), (r.selectHost id).2.outline) := by
  rcases r.selectHost_cases id with ⟨unknown, same⟩ | ⟨known, same⟩
  · simp [Outline.selectHost, answer, host?_outline, unknown, same]
  · simp only [Outline.selectHost, answer, host?_outline, Option.isSome_map, known, same, if_true]
    rfl

theorem attach_outline (wf : r.WellFormed) (id : HostId) (t : TerminalId) :
    r.outline.attach r.cap id t = (r.answer (.attach id t), (r.attach id t).2.outline) := by
  have outcome := r.attach_cases id t
  have after := wf.attach id t
  simp only [answer]
  generalize r.attach id t = result at outcome after ⊢
  cases outcome with
  | unknownHost unknown => simp [Outline.attach, host?_outline, unknown]
  | duplicate h found mem =>
    simp [Outline.attach, host?_outline, found, Host.map_fst_outline, mem]
  | atCapacity h found fresh quiet full =>
    simp [Outline.attach, host?_outline, found, Host.map_fst_outline, fresh, Host.length_outline,
      quiet, full]
  | answer h s found fresh mem waits =>
    have pending : h.isActivating = true := by
      rw [Host.isActivating, (wf.tidy_of_host? found).activating?_of_mem mem waits,
        Option.isSome_some]
    have bound : ⟨s.id, .bound t .terminal⟩ ∈ (answered h s t).slots :=
      List.mem_map.mpr ⟨s, mem, by simp⟩
    have same : ((answered h s t).settle r.cap r.next).1.id = id :=
      (Host.id_settle _ _ _).trans (id_of_host? (h := h) found)
    have state := stateAt?_of_bound after (host?_put_self found same) bound rfl
    simp only [Outline.attach, host?_outline, found, Option.map_some, Host.map_fst_outline, fresh,
      Host.pending_outline, pending, Bool.true_or, if_true, if_false, Bool.true_eq_false, false_and]
    rw [state, ← wf.outline_answered found fresh mem waits]
    rfl
  | join h found fresh quiet room =>
    have bound : .ofTerminal ⟨r.next⟩ t ∈ (joined h ⟨r.next⟩ t).slots := by
      simp [joined, Host.insertBound]
    have same : ((joined h ⟨r.next⟩ t).settle r.cap (r.next + 1)).1.id = id :=
      (Host.id_settle _ _ _).trans (id_of_host? (h := h) found)
    have state : stateAt? _ id ⟨r.next⟩ = some (.bound t .terminal) :=
      stateAt?_of_bound after (host?_put_self found same) bound rfl
    have unselected : h.active?.isNone = h.selected.isNone := by
      rw [Bool.eq_iff_iff, Option.isNone_iff_eq_none, Option.isNone_iff_eq_none,
        (wf.tidy_of_host? found).active?_eq_none_iff]
    have selects : h.active?.or (some t) = if h.selected.isNone then some t else h.active? := by
      rw [← unselected]
      cases h.active? <;> rfl
    have kept := wf.outline_joined found fresh quiet room
    simp only [Outline.attach, host?_outline, found, Option.map_some, Host.map_fst_outline, fresh,
      Host.pending_outline, quiet, Host.length_outline, true_and, Nat.not_le.mpr room,
      Bool.false_or, Host.selected_outline, unselected, if_false, Bool.false_eq_true]
    rw [state, kept, selects]
    rfl

/-- The slot for which a terminal is asked waits for it. -/
theorem WellFormed.stateAt?_activated
    (after : (r.put (h.setState s.id .activating)).WellFormed) (found : r.host? id = some h)
    (mem : s ∈ h.slots) :
    (r.put (h.setState s.id .activating)).stateAt? id s.id = some .activating := by
  have asked : ⟨s.id, .activating⟩ ∈ (h.setState s.id .activating).slots :=
    List.mem_map.mpr ⟨s, mem, by simp⟩
  have there : (r.put (h.setState s.id .activating)).host? id = some _ :=
    host?_put_self found (id_of_host? (h := h) found)
  exact stateAt?_of_mem there (after.tidy_of_host? there).numbered asked

theorem request_outline (wf : r.WellFormed) (id : HostId) :
    r.outline.request r.cap id = (r.answer (.request id), (r.request id).2.outline) := by
  have outcome := r.request_cases id
  have after := wf.request id
  simp only [answer]
  generalize r.request id = result at outcome after ⊢
  cases outcome with
  | unknownHost unknown => simp [Outline.request, host?_outline, unknown]
  | refused h found why =>
    have refused : ¬ (h.isActivating = false ∧ h.sessionCount < r.cap) := by
      rintro ⟨quiet, room⟩
      obtain ⟨s, mem, idle⟩ := (wf.tidy_of_host? found).exists_idle quiet room
      rcases why with waits | offerless
      · simp [quiet] at waits
      · exact offerless s mem idle
    simp [Outline.request, host?_outline, found, Host.length_outline, -not_and, refused]
  | accepted h s found quiet mem idle =>
    have tidy := wf.tidy_of_host? found
    have room := tidy.lt_of_free mem (Slot.isFree_of_state (Or.inl idle))
    simp only [Outline.request, host?_outline, found, Option.map_some, Host.pending_outline, quiet,
      Host.length_outline, room, true_and, if_true, outline_put, tidy.outline_activated mem idle]
    rw [after.stateAt?_activated found mem]

theorem selectSlot_outline (wf : r.WellFormed) (id : HostId) (slot : SlotId) :
    r.outline.selectSlot id (r.terminalAt? id slot) =
      (r.answer (.selectSlot id slot), (r.selectSlot id slot).2.outline) := by
  have outcome := r.selectSlot_cases id slot
  simp only [answer]
  generalize r.selectSlot id slot = result at outcome ⊢
  cases outcome with
  | unknownHost unknown => simp [Outline.selectSlot, host?_outline, unknown]
  | unbound h found unbound =>
    simp [Outline.selectSlot, terminalAt?, host?_outline, found, unbound]
  | toggled h s t face found mem same bound current selected =>
    have tidy := wf.tidy_of_host? found
    have there : s.terminal? = some t := by simp [Slot.terminal?, bound]
    have active : h.active? = some t :=
      (tidy.active?_eq_some_iff mem there).mpr (same ▸ selected)
    subst same
    simp only [Outline.selectSlot, host?_outline, found, Option.map_some,
      terminalAt?_of_mem found tidy.numbered mem, there,
      Host.find?_outline tidy.toOrdered mem bound, Host.selected_outline, active, outline_put,
      tidy.outline_flipped mem bound]
    simp [outline, current]
  | selected h s t found mem same bound other =>
    have tidy := wf.tidy_of_host? found
    obtain ⟨face, state⟩ : ∃ face, s.state = .bound t face := by
      cases state : s.state <;> simp_all [Slot.terminal?]
    subst same
    have apart : ¬ (r.outline.current = some id ∧ h.active? = some t) := by
      rwa [tidy.active?_eq_some_iff mem bound]
    simp only [Outline.selectSlot, host?_outline, found, Option.map_some,
      terminalAt?_of_mem found tidy.numbered mem, bound,
      Host.find?_outline tidy.toOrdered mem state, Host.selected_outline, apart, if_false,
      ← tidy.outline_selected mem bound, ← outline_put]
    rfl

theorem closeSlot_outline (wf : r.WellFormed) (id : HostId) (slot : SlotId) :
    r.outline.closeSlot id (r.terminalAt? id slot) =
      (r.answer (.closeSlot id slot), (r.closeSlot id slot).2.outline) := by
  have outcome := r.closeSlot_cases id slot
  simp only [answer]
  generalize r.closeSlot id slot = result at outcome ⊢
  cases outcome with
  | unknownHost unknown => simp [Outline.closeSlot, host?_outline, unknown]
  | unbound h found unbound =>
    simp [Outline.closeSlot, terminalAt?, host?_outline, found, unbound]
  | closed h s t found mem same bound =>
    have tidy := wf.tidy_of_host? found
    have inside : t ∈ h.terminals := Host.mem_terminals.mpr ⟨s, mem, bound⟩
    subst same
    simp only [Outline.closeSlot, host?_outline, found, Option.map_some,
      terminalAt?_of_mem found tidy.numbered mem, bound, Host.map_fst_outline, inside, if_true,
      wf.outline_bereft found mem bound, tidy.lastBound?_removeSlot mem bound]

/-- Every change of a well-formed roster is one of its outline. -/
theorem edit_outline (wf : r.WellFormed) (e : Edit) :
    r.outline.edit r.cap (r.sketch e) = (r.answer e, (r.edit e).outline) := by
  cases e with
  | addHost info => exact r.addHost_outline info
  | removeHost host => exact r.removeHost_outline host
  | selectHost host => exact r.selectHost_outline host
  | attach host t => exact attach_outline wf host t
  | request host => exact request_outline wf host
  | selectSlot host slot => exact selectSlot_outline wf host slot
  | closeSlot host slot => exact closeSlot_outline wf host slot
  | clear => rfl

/-! ### Every run of changes -/

theorem WellFormed.outline_editAll (wf : r.WellFormed) (edits : List Edit) :
    r.outline.editAll r.cap (r.sketchAll edits) = (r.answers edits, (r.editAll edits).outline) := by
  induction edits generalizing r with
  | nil => rfl
  | cons e edits ih =>
    have rest := ih (wellFormed_edit wf e)
    rw [r.cap_edit e] at rest
    simp only [sketchAll, Outline.editAll, edit_outline wf e, rest, answers]
    rfl

/-- A roster does what its outline does. After every run of changes, whatever they name, the outline
of the roster is what the rules of outlines make of the same changes, and every change was answered
as they say. -/
theorem editAll_follows_outline (cap : Nat) (edits : List Edit) :
    let r : Roster := { cap }
    ({} : Outline).editAll cap (r.sketchAll edits) = (r.answers edits, (r.editAll edits).outline) :=
  (wellFormed_start cap).outline_editAll edits

end Roster

end Switchboard
