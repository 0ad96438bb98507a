import Mathlib.Data.List.Pairwise
import Switchboard.Proofs.Roster.Row

/-!
# Rows stay tidy

Every change that the roster makes to one host leaves its row tidy, at once or after it has settled.
-/

namespace Switchboard.Host

variable {h : Host} {cap next : Nat} {t : TerminalId} {s : Slot}

/-- Settling makes a row tidy. -/
theorem Unsettled.tidy_settle (u : h.Unsettled cap) (below : ∀ s ∈ h.slots, s.id.number < next) :
    (h.settle cap next).1.Tidy cap := by
  obtain ⟨bs, fs, a, short⟩ := u.arranged
  have settled := a.settle cap next
  have count := a.sessionCount ▸ u.count_le
  -- The free slots that are left: one below the cap, none at it.
  have one : (if bs.length < cap then (if fs = [] then [Slot.offer ⟨next⟩] else fs)
      else fs.filter (·.state ≠ .idle)).length = if bs.length < cap then 1 else 0 := by
    by_cases room : bs.length < cap
    · cases fs with
      | nil => simp [room]
      | cons f fs => simpa [room] using short
    · have quiet := isActivating_eq_false_iff.mp
        (u.not_activating (by rw [a.sessionCount]; omega))
      simp only [room, if_false, List.length_eq_zero_iff, List.filter_eq_nil_iff]
      intro f mem
      have idle := (Slot.idle_or_activating (a.free f mem)).resolve_right
        (quiet f (a.slots ▸ List.mem_append_right bs mem))
      simp [idle]
  refine ⟨?_, ?_, ?_⟩
  · refine settled.ordered ?_ (numbered_settle u.numbered below) (a.terminals ▸ u.distinct) ?_ ?_
    · rw [one]
      split <;> omega
    · rw [selected_settle, u.unselected_iff a]
    · intro id selected
      rw [selected_settle] at selected
      exact u.selected_mem a selected
  · rw [sessionCount, terminals_settle]
    exact u.count_le
  · rw [settled.filter_free, settled.sessionCount, one]

theorem tidy_newcomer (info : HostInfo) (cap next : Nat) :
    (Host.settle { info, slots := [], selected := none } cap next).1.Tidy cap := by
  have a : Arranged { info, slots := [], selected := none } [] [] := ⟨rfl, by simp, by simp⟩
  apply Unsettled.tidy_settle _ (by simp)
  exact ⟨a.ordered (by simp) (by simp) (by simp) (by simp) (by simp), by simp [a.sessionCount],
    fun _ => by simp [isActivating, activating?]⟩

theorem Tidy.activate (tidy : h.Tidy cap) (mem : s ∈ h.slots) (idle : s.state = .idle) :
    (h.setState s.id .activating).Tidy cap := by
  obtain ⟨bs, a⟩ := tidy.arranged_of_free mem (Slot.isFree_of_state (Or.inl idle))
  have a' := a.setState_free tidy.numbered .activating rfl
  have count : (h.setState s.id .activating).sessionCount = h.sessionCount := by
    rw [a'.sessionCount, a.sessionCount]
  refine ⟨a'.ordered (by simp) (by rw [map_id_setState]; exact tidy.numbered)
    (a.terminals ▸ tidy.distinct) (tidy.unselected_iff a) (fun id => tidy.selected_mem a), ?_, ?_⟩
  · rw [count]
    exact tidy.count_le
  · rw [count, ← tidy.free_count, a'.filter_free, a.filter_free]
    rfl

theorem Ordered.arranged_of_bound (o : h.Ordered) (mem : s ∈ h.slots)
    (bound : s.terminal? = some t) : ∃ bs fs, h.Arranged bs fs ∧ fs.length ≤ 1 ∧ s ∈ bs := by
  obtain ⟨bs, fs, a, short⟩ := o.arranged
  refine ⟨bs, fs, a, short, ?_⟩
  rw [← a.filter_bound]
  exact List.mem_filter.mpr ⟨mem, by simp [Slot.isFree_eq_false_iff.mpr ⟨t, bound⟩]⟩

theorem terminals_setState {state : SlotState} (numbered : (h.slots.map Slot.id).Nodup)
    (mem : s ∈ h.slots) (kept : Slot.terminal? ⟨s.id, state⟩ = s.terminal?) :
    (h.setState s.id state).terminals = h.terminals := by
  simp only [terminals, setState, List.filterMap_map]
  apply List.filterMap_congr
  intro x hx
  by_cases same : x.id = s.id
  · rw [List.inj_on_of_nodup_map numbered hx mem same]
    simpa using kept
  · simp [same]

theorem Tidy.face (tidy : h.Tidy cap) (mem : s ∈ h.slots) (bound : s.terminal? = some t)
    (face : Face) : (h.setState s.id (.bound t face)).Tidy cap := by
  obtain ⟨bs, fs, a, short, inside⟩ := tidy.arranged_of_bound mem bound
  have a' := a.setState_bound tidy.numbered inside (.bound t face) rfl
  have same : (h.setState s.id (.bound t face)).terminals = h.terminals :=
    terminals_setState tidy.numbered mem bound.symm
  have count : (h.setState s.id (.bound t face)).sessionCount = h.sessionCount := by
    rw [sessionCount, same, sessionCount]
  refine ⟨a'.ordered short (by rw [map_id_setState]; exact tidy.numbered)
    (by rw [← a'.terminals, same]; exact tidy.distinct) ?_ ?_, ?_, ?_⟩
  · rw [List.map_eq_nil_iff]
    exact tidy.unselected_iff a
  · intro id selected
    obtain ⟨x, hx, number⟩ := tidy.selected_mem a selected
    refine ⟨_, List.mem_map_of_mem hx, ?_⟩
    split <;> exact number
  · rw [count]
    exact tidy.count_le
  · rw [count, ← tidy.free_count, a'.filter_free, a.filter_free]

theorem Tidy.select (tidy : h.Tidy cap) (mem : s ∈ h.slots) (bound : s.terminal? = some t) :
    Tidy { h with selected := some s.id } cap := by
  obtain ⟨bs, fs, a, short, inside⟩ := tidy.arranged_of_bound mem bound
  refine ⟨(a.select (some s.id)).ordered short tidy.numbered (a.terminals ▸ tidy.distinct) ?_ ?_,
    tidy.count_le, tidy.free_count⟩
  · simpa using List.ne_nil_of_mem inside
  · intro id selected
    exact ⟨s, inside, by simpa using selected⟩

/-! ### Changes before a row settles -/

theorem nodup_append_singleton (distinct : h.terminals.Nodup) (fresh : t ∉ h.terminals) :
    (h.terminals ++ [t]).Nodup := by
  rw [List.nodup_append]
  refine ⟨distinct, by simp, ?_⟩
  intro x hx y hy
  rw [List.mem_singleton.mp hy]
  exact ne_of_mem_of_not_mem hx fresh

theorem Ordered.terminals_bind (o : h.Ordered) (mem : s ∈ h.slots) (free : s.isFree = true)
    (t : TerminalId) (face : Face) :
    (h.setState s.id (.bound t face)).terminals = h.terminals ++ [t] := by
  obtain ⟨bs, a⟩ := o.arranged_of_free mem free
  rw [(a.setState_bind o.numbered (.bound t face) rfl).terminals, a.terminals,
    List.filterMap_append]
  rfl

theorem Ordered.terminals_insertBound (o : h.Ordered) (id : SlotId) (t : TerminalId) :
    (h.insertBound (.ofTerminal id t)).terminals = h.terminals ++ [t] := by
  obtain ⟨bs, fs, a, _⟩ := o.arranged
  have bound : (Slot.ofTerminal id t).isFree = false := rfl
  rw [(a.insertBound bound).terminals, a.terminals, List.filterMap_append]
  rfl

/-- The terminal that was asked for is bound to the slot that waits for it. -/
theorem Tidy.answer (tidy : h.Tidy cap) (mem : s ∈ h.slots) (waits : s.state = .activating)
    (fresh : t ∉ h.terminals) :
    Unsettled { h.setState s.id (.bound t .terminal) with selected := some s.id } cap := by
  have free := Slot.isFree_of_state (Or.inr waits)
  have room := tidy.lt_of_free mem free
  obtain ⟨bs, a⟩ := tidy.arranged_of_free mem free
  have bound := a.setState_bind tidy.numbered (.bound t .terminal) rfl
  have selected := bound.select (some s.id)
  refine ⟨selected.ordered (by simp) ?_ ?_ (by simp) ?_, ?_, fun _ => ?_⟩
  · rw [map_id_setState]
    exact tidy.numbered
  · rw [← bound.terminals, tidy.terminals_bind mem free]
    exact nodup_append_singleton tidy.distinct fresh
  · intro id same
    exact ⟨_, List.mem_append_right bs List.mem_cons_self, by simpa using same⟩
  · rw [a.sessionCount] at room
    rw [selected.sessionCount, List.length_append]
    exact room
  · exact selected.isActivating_eq_false (by simp)

/-- A terminal that was not asked for gets a slot of its own before the offer. -/
theorem Tidy.insert {id : SlotId} (tidy : h.Tidy cap) (quiet : h.isActivating = false)
    (room : h.sessionCount < cap) (fresh : t ∉ h.terminals) (unused : id ∉ h.slots.map Slot.id) :
    Unsettled
      { h.insertBound (.ofTerminal id t) with selected := h.selected.or (some id) } cap := by
  obtain ⟨bs, fs, a, short⟩ := tidy.arranged
  have inserted := a.insertBound (s := Slot.ofTerminal id t) rfl
  have selected := inserted.select (h.selected.or (some id))
  refine ⟨selected.ordered short ?_ ?_ ?_ ?_, ?_, fun _ => ?_⟩
  · have moved : (bs ++ [Slot.ofTerminal id t] ++ fs).Perm (Slot.ofTerminal id t :: h.slots) := by
      rw [a.slots, List.append_assoc]
      exact List.perm_middle
    show ((h.insertBound (.ofTerminal id t)).slots.map Slot.id).Nodup
    rw [inserted.slots, (moved.map Slot.id).nodup_iff]
    exact List.nodup_cons.mpr ⟨unused, tidy.numbered⟩
  · rw [← inserted.terminals, tidy.terminals_insertBound]
    exact nodup_append_singleton tidy.distinct fresh
  · cases h.selected <;> simp
  · intro number same
    cases before : h.selected with
    | none =>
      refine ⟨Slot.ofTerminal id t, List.mem_append_right bs List.mem_cons_self, ?_⟩
      simpa [before, Slot.ofTerminal] using same
    | some old =>
      obtain ⟨x, hx, found⟩ := tidy.selected_mem a before
      refine ⟨x, List.mem_append_left _ hx, ?_⟩
      simpa [before, found] using same
  · rw [a.sessionCount] at room
    rw [selected.sessionCount, List.length_append]
    exact room
  · apply selected.isActivating_eq_false
    intro f hf
    exact isActivating_eq_false_iff.mp quiet f (a.slots ▸ List.mem_append_right bs hf)

theorem Ordered.eq_of_terminal? {x : Slot} (o : h.Ordered) (hx : x ∈ h.slots) (hs : s ∈ h.slots)
    (bound : x.terminal? = some t) (bound' : s.terminal? = some t) : x = s := by
  by_contra ne
  have symmetric : Std.Symm fun a b : Slot =>
      ∀ u, a.terminal? = some u → ∀ v, b.terminal? = some v → u ≠ v :=
    ⟨fun a b differ u hu v hv same => differ v hv u hu same.symm⟩
  exact (List.pairwise_filterMap.mp o.distinct).forall hx hs ne t bound t bound' rfl

theorem Ordered.terminals_removeSlot (o : h.Ordered) (mem : s ∈ h.slots)
    (bound : s.terminal? = some t) :
    (h.removeSlot s.id).terminals = h.terminals.filter (· ≠ t) := by
  simp only [terminals, removeSlot, List.filterMap_filter, List.filter_filterMap]
  apply List.filterMap_congr
  intro x hx
  by_cases same : x.id = s.id
  · rw [List.inj_on_of_nodup_map o.numbered hx mem same, bound]
    simp [Option.filter_some]
  · cases other : x.terminal? with
    | none => simp
    | some u =>
      -- No other slot is bound to the terminal that leaves.
      have ne : u ≠ t := by
        rintro rfl
        exact same (congrArg Slot.id (o.eq_of_terminal? hx mem other bound))
      simp [same, ne, Option.filter_some]

/-- A bound slot is removed, and the last bound slot that is left is selected. -/
theorem Tidy.remove (tidy : h.Tidy cap) (mem : s ∈ h.slots) (bound : s.terminal? = some t) :
    Unsettled { h.removeSlot s.id with
      selected := (h.removeSlot s.id).lastBound?.map Slot.id } cap := by
  obtain ⟨bs, fs, a, short, inside⟩ := tidy.arranged_of_bound mem bound
  have removed := a.removeSlot tidy.numbered inside
  have selected := removed.select ((h.removeSlot s.id).lastBound?.map Slot.id)
  have fewer : (bs.filter (·.id ≠ s.id)).length < bs.length :=
    List.length_filter_lt_length_iff_exists.mpr ⟨s, inside, by simp⟩
  have room := a.sessionCount ▸ tidy.count_le
  refine ⟨selected.ordered short ?_ ?_ ?_ ?_, ?_, fun full => ?_⟩
  · exact tidy.numbered.sublist (List.filter_sublist.map Slot.id)
  · rw [← removed.terminals, tidy.terminals_removeSlot mem bound]
    exact tidy.distinct.filter _
  · rw [removed.lastBound?]
    simp
  · intro id same
    rw [removed.lastBound?] at same
    obtain ⟨x, last, found⟩ := Option.map_eq_some_iff.mp same
    exact ⟨x, List.mem_of_getLast? last, found⟩
  · rw [selected.sessionCount]
    omega
  · rw [selected.sessionCount] at full
    omega

/-! ### What ordered rows look like -/

theorem Ordered.getLast?_of_free (o : h.Ordered) (mem : s ∈ h.slots) (free : s.isFree = true) :
    h.slots.getLast? = some s := by
  obtain ⟨bs, a⟩ := o.arranged_of_free mem free
  rw [a.slots, List.getLast?_concat]

theorem Ordered.waiting_le (o : h.Ordered) :
    (h.slots.filter (·.state = .activating)).length ≤ 1 := by
  obtain ⟨bs, fs, a, short⟩ := o.arranged
  have waiting : ∀ x ∈ h.slots.filter (·.state = .activating), x.isFree = true := by
    intro x hx
    exact Slot.isFree_of_state (Or.inr (by simpa using (List.mem_filter.mp hx).2))
  have inside := (List.filter_sublist (p := fun x : Slot => x.state = .activating)
    (l := h.slots)).filter Slot.isFree
  rw [List.filter_eq_self.mpr waiting, a.filter_free] at inside
  exact Nat.le_trans inside.length_le short

theorem Ordered.selected_eq_none_iff (o : h.Ordered) :
    h.selected = none ↔ ∀ s ∈ h.slots, s.isFree = true := by
  rw [o.selected_eq_none, terminals, List.filterMap_eq_nil_iff]
  simp [Slot.isFree]

end Switchboard.Host
