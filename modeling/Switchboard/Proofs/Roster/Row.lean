import Switchboard.Proofs.Keyed
import Switchboard.Roster.Host

/-!
# Rows of slots

In an ordered row the bound slots come first and at most one free slot follows them; a tidy row has
a free slot exactly below the cap. An ordered row is tidy once it has settled, unless it waits for a
terminal at the cap.
-/

namespace Switchboard

theorem Slot.isFree_eq_false_iff {s : Slot} : s.isFree = false ↔ ∃ t, s.terminal? = some t := by
  simp [isFree, Option.isNone_eq_false_iff, Option.isSome_iff_exists]

theorem Slot.isFree_of_state {s : Slot} (h : s.state = .idle ∨ s.state = .activating) :
    s.isFree = true := by
  rcases h with h | h <;> simp [isFree, terminal?, h]

theorem Slot.idle_or_activating {s : Slot} (free : s.isFree = true) :
    s.state = .idle ∨ s.state = .activating := by
  cases state : s.state with
  | idle => exact Or.inl rfl
  | activating => exact Or.inr rfl
  | bound t face => simp [isFree, terminal?, state] at free

namespace Host

variable {h : Host} {bs fs : List Slot} {cap next : Nat}

theorem mem_terminals {t : TerminalId} : t ∈ h.terminals ↔ ∃ s ∈ h.slots, s.terminal? = some t := by
  simp [terminals]

theorem slotOf?_eq_none_iff {t : TerminalId} : h.slotOf? t = none ↔ t ∉ h.terminals := by
  simp [slotOf?, mem_terminals]

theorem slotOf?_eq_some {t : TerminalId} {s : Slot} (found : h.slotOf? t = some s) :
    s ∈ h.slots ∧ s.terminal? = some t :=
  ⟨List.mem_of_find?_eq_some found, by simpa using List.find?_some found⟩

theorem slot?_eq_some {id : SlotId} {s : Slot} (found : h.slot? id = some s) :
    s ∈ h.slots ∧ s.id = id :=
  ⟨List.mem_of_find?_eq_some found, by simpa using List.find?_some found⟩

theorem slot?_of_mem {s : Slot} (numbered : (h.slots.map Slot.id).Nodup) (mem : s ∈ h.slots) :
    h.slot? s.id = some s := find?_key_of_mem numbered mem

theorem active?_of_mem {s : Slot} (numbered : (h.slots.map Slot.id).Nodup) (mem : s ∈ h.slots)
    (selected : h.selected = some s.id) : h.active? = s.terminal? := by
  simp [active?, selectedSlot?, selected, slot?_of_mem numbered mem]

theorem active?_eq_none (unselected : h.selected = none) : h.active? = none := by
  simp [active?, selectedSlot?, unselected]

theorem mem_terminals_of_active? {t : TerminalId} (active : h.active? = some t) :
    t ∈ h.terminals := by
  obtain ⟨s, found, bound⟩ := Option.bind_eq_some_iff.mp active
  obtain ⟨id, _, found⟩ := Option.bind_eq_some_iff.mp found
  exact mem_terminals.mpr ⟨s, (slot?_eq_some found).1, bound⟩

/-! ### Bound slots, then free slots -/

/-- The slots are the bound slots `bs` and then the free slots `fs`. -/
structure Arranged (h : Host) (bs fs : List Slot) : Prop where
  slots : h.slots = bs ++ fs
  bound : ∀ s ∈ bs, s.isFree = false
  free : ∀ s ∈ fs, s.isFree = true

namespace Arranged

theorem filter_free (a : h.Arranged bs fs) : h.slots.filter Slot.isFree = fs := by
  rw [a.slots, List.filter_append, List.filter_eq_nil_iff.mpr (by simpa using a.bound),
    List.filter_eq_self.mpr a.free, List.nil_append]

theorem filter_bound (a : h.Arranged bs fs) : h.slots.filter (!·.isFree) = bs := by
  rw [a.slots, List.filter_append, List.filter_eq_self.mpr (by simpa using a.bound),
    List.filter_eq_nil_iff.mpr (by simpa using a.free), List.append_nil]

theorem terminals (a : h.Arranged bs fs) : h.terminals = bs.filterMap Slot.terminal? := by
  have none : fs.filterMap Slot.terminal? = [] :=
    List.filterMap_eq_nil_iff.mpr fun s mem => by simpa [Slot.isFree] using a.free s mem
  rw [Host.terminals, a.slots, List.filterMap_append, none, List.append_nil]

theorem sessionCount (a : h.Arranged bs fs) : h.sessionCount = bs.length := by
  rw [Host.sessionCount, a.terminals, List.length_filterMap_eq_countP, List.countP_eq_length]
  intro s mem
  simpa [Slot.isFree] using a.bound s mem

theorem lastBound? (a : h.Arranged bs fs) : h.lastBound? = bs.getLast? := by
  rw [Host.lastBound?, a.filter_bound]

theorem free? (a : h.Arranged bs fs) : h.free? = fs.head? := by
  rw [Host.free?, ← List.head?_filter, a.filter_free]

theorem find? (a : h.Arranged bs fs) {p : Slot → Bool} (only : ∀ s, p s = true → s.isFree = true) :
    h.slots.find? p = fs.find? p := by
  have none : bs.find? p = none := by
    rw [List.find?_eq_none]
    intro s mem holds
    exact absurd (only s holds) (by simp [a.bound s mem])
  rw [a.slots, List.find?_append, none, Option.none_or]

theorem select (a : h.Arranged bs fs) (selected : Option SlotId) :
    Arranged { h with selected } bs fs := ⟨a.slots, a.bound, a.free⟩

theorem activating?_eq (a : h.Arranged bs fs) :
    h.activating? = fs.find? (·.state = .activating) :=
  a.find? fun _ waits => Slot.isFree_of_state (Or.inr (by simpa using waits))

theorem isActivating_eq_false (a : h.Arranged bs fs) (quiet : ∀ f ∈ fs, f.state ≠ .activating) :
    h.isActivating = false := by
  have none : h.activating? = none := by
    rw [a.activating?_eq, List.find?_eq_none]
    simpa using quiet
  rw [isActivating, none, Option.isSome_none]

theorem insertBound (a : h.Arranged bs fs) {s : Slot} (bound : s.isFree = false) :
    (h.insertBound s).Arranged (bs ++ [s]) fs where
  slots := by
    have all : ∀ x ∈ bs, (!x.isFree) = true := by simpa using a.bound
    have stops : fs.takeWhile (!·.isFree) = [] ∧ fs.dropWhile (!·.isFree) = fs := by
      cases fs with
      | nil => simp
      | cons f fs => simp [a.free f List.mem_cons_self]
    simp only [Host.insertBound, a.slots]
    rw [List.takeWhile_append_of_pos all, List.dropWhile_append_of_pos all, stops.1, stops.2]
    simp
  bound := by
    intro x mem
    rcases List.mem_append.mp mem with old | fresh
    · exact a.bound x old
    · rwa [List.mem_singleton.mp fresh]
  free := a.free

end Arranged

/-! ### Changing one slot -/

theorem map_id_setState (h : Host) (id : SlotId) (state : SlotState) :
    (h.setState id state).slots.map Slot.id = h.slots.map Slot.id := by
  simp only [setState, List.map_map, List.map_inj_left, Function.comp_apply]
  intro s _
  split <;> rfl

theorem map_setState_of_notMem {id : SlotId} {state : SlotState} {l : List Slot}
    (absent : id ∉ l.map Slot.id) :
    l.map (fun s => if s.id = id then { s with state } else s) = l := by
  rw [List.map_congr_left (g := fun s => s), List.map_id']
  intro s mem
  have ne : s.id ≠ id := fun same => absent (same ▸ List.mem_map_of_mem mem)
  simp [ne]

theorem Arranged.disjoint (a : h.Arranged bs fs) (numbered : (h.slots.map Slot.id).Nodup) :
    ∀ b ∈ bs, ∀ f ∈ fs, b.id ≠ f.id := by
  rw [a.slots, List.map_append, List.nodup_append] at numbered
  intro b hb f hf
  exact numbered.2.2 b.id (List.mem_map_of_mem hb) f.id (List.mem_map_of_mem hf)

theorem Arranged.slots_setState {f : Slot} (a : h.Arranged bs [f])
    (numbered : (h.slots.map Slot.id).Nodup) (state : SlotState) :
    (h.setState f.id state).slots = bs ++ [⟨f.id, state⟩] := by
  have absent : f.id ∉ bs.map Slot.id := by
    intro mem
    obtain ⟨b, hb, same⟩ := List.mem_map.mp mem
    exact a.disjoint numbered b hb f List.mem_cons_self same
  simp only [setState, a.slots, List.map_append, map_setState_of_notMem absent]
  simp

theorem Arranged.setState_free {f : Slot} (a : h.Arranged bs [f])
    (numbered : (h.slots.map Slot.id).Nodup) (state : SlotState)
    (free : Slot.isFree ⟨f.id, state⟩ = true) :
    (h.setState f.id state).Arranged bs [⟨f.id, state⟩] where
  slots := a.slots_setState numbered state
  bound := a.bound
  free := by simpa using free

theorem Arranged.setState_bind {f : Slot} (a : h.Arranged bs [f])
    (numbered : (h.slots.map Slot.id).Nodup) (state : SlotState)
    (bound : Slot.isFree ⟨f.id, state⟩ = false) :
    (h.setState f.id state).Arranged (bs ++ [⟨f.id, state⟩]) [] where
  slots := by simpa using a.slots_setState numbered state
  bound := by
    intro x mem
    rcases List.mem_append.mp mem with old | fresh
    · exact a.bound x old
    · rwa [List.mem_singleton.mp fresh]
  free := by simp

theorem Arranged.setState_bound {b : Slot} (a : h.Arranged bs fs)
    (numbered : (h.slots.map Slot.id).Nodup) (mem : b ∈ bs) (state : SlotState)
    (bound : Slot.isFree ⟨b.id, state⟩ = false) :
    (h.setState b.id state).Arranged
      (bs.map fun s => if s.id = b.id then { s with state } else s) fs where
  slots := by
    have absent : b.id ∉ fs.map Slot.id := by
      intro hf
      obtain ⟨f, hf, same⟩ := List.mem_map.mp hf
      exact a.disjoint numbered b mem f hf same.symm
    simp only [setState, a.slots, List.map_append, map_setState_of_notMem absent]
  bound := by
    intro x hx
    obtain ⟨s, hs, rfl⟩ := List.mem_map.mp hx
    by_cases same : s.id = b.id
    · simpa [same] using bound
    · simpa [same] using a.bound s hs
  free := a.free

theorem Arranged.removeSlot {b : Slot} (a : h.Arranged bs fs)
    (numbered : (h.slots.map Slot.id).Nodup) (mem : b ∈ bs) :
    (h.removeSlot b.id).Arranged (bs.filter (·.id ≠ b.id)) fs where
  slots := by
    have kept : fs.filter (·.id ≠ b.id) = fs := by
      rw [List.filter_eq_self]
      intro f hf
      simpa using (a.disjoint numbered b mem f hf).symm
    rw [Host.removeSlot, a.slots, List.filter_append, kept]
  bound := fun s hs => a.bound s (List.mem_filter.mp hs).1
  free := a.free

/-! ### Ordered rows -/

/-- The bound slots come before the free slot, no number and no terminal is there twice, and a bound
slot is selected if there is one. -/
structure Ordered (h : Host) : Prop where
  arranged : ∃ bs fs, h.Arranged bs fs ∧ fs.length ≤ 1
  numbered : (h.slots.map Slot.id).Nodup
  distinct : h.terminals.Nodup
  selected_eq_none : h.selected = none ↔ h.terminals = []
  selected_bound : ∀ id, h.selected = some id → ∃ s ∈ h.slots, s.id = id ∧ s.isFree = false

/-- A row that may settle: at the cap it does not wait for a terminal. -/
structure Unsettled (h : Host) (cap : Nat) : Prop extends h.Ordered where
  count_le : h.sessionCount ≤ cap
  not_activating : h.sessionCount = cap → h.isActivating = false

/-- A row that has settled: a free slot is there exactly below the cap. -/
structure Tidy (h : Host) (cap : Nat) : Prop extends h.Ordered where
  count_le : h.sessionCount ≤ cap
  free_count : (h.slots.filter Slot.isFree).length = if h.sessionCount < cap then 1 else 0

theorem Arranged.terminals_eq_nil (a : h.Arranged bs fs) : h.terminals = [] ↔ bs = [] := by
  rw [← List.length_eq_zero_iff, ← List.length_eq_zero_iff, ← a.sessionCount, Host.sessionCount]

theorem Arranged.ordered (a : h.Arranged bs fs) (short : fs.length ≤ 1)
    (numbered : (h.slots.map Slot.id).Nodup) (distinct : (bs.filterMap Slot.terminal?).Nodup)
    (unselected : h.selected = none ↔ bs = [])
    (selected : ∀ id, h.selected = some id → ∃ s ∈ bs, s.id = id) : h.Ordered where
  arranged := ⟨bs, fs, a, short⟩
  numbered := numbered
  distinct := a.terminals ▸ distinct
  selected_eq_none := unselected.trans a.terminals_eq_nil.symm
  selected_bound := by
    intro id hid
    obtain ⟨s, mem, same⟩ := selected id hid
    exact ⟨s, a.slots ▸ List.mem_append_left fs mem, same, a.bound s mem⟩

theorem Ordered.selected_mem (o : h.Ordered) (a : h.Arranged bs fs) {id : SlotId}
    (selected : h.selected = some id) : ∃ s ∈ bs, s.id = id := by
  obtain ⟨s, mem, same, bound⟩ := o.selected_bound id selected
  refine ⟨s, ?_, same⟩
  rw [← a.filter_bound]
  exact List.mem_filter.mpr ⟨mem, by simp [bound]⟩

theorem Ordered.unselected_iff (o : h.Ordered) (a : h.Arranged bs fs) :
    h.selected = none ↔ bs = [] := o.selected_eq_none.trans a.terminals_eq_nil

theorem eq_singleton {f : Slot} (short : fs.length ≤ 1) (mem : f ∈ fs) : fs = [f] := by
  match fs, short with
  | [x], _ => rw [List.mem_singleton.mp mem]

/-- A free slot of an ordered row is the only one, behind all bound slots. -/
theorem Ordered.arranged_of_free {f : Slot} (o : h.Ordered) (mem : f ∈ h.slots)
    (free : f.isFree = true) : ∃ bs, h.Arranged bs [f] := by
  obtain ⟨bs, fs, a, short⟩ := o.arranged
  have inside : f ∈ fs := by
    rw [← a.filter_free]
    exact List.mem_filter.mpr ⟨mem, free⟩
  exact ⟨bs, eq_singleton short inside ▸ a⟩

theorem Tidy.lt_of_free {f : Slot} (t : h.Tidy cap) (mem : f ∈ h.slots) (free : f.isFree = true) :
    h.sessionCount < cap := by
  by_contra full
  have none := t.free_count
  rw [if_neg full, List.length_eq_zero_iff, List.filter_eq_nil_iff] at none
  exact none f mem free

theorem activating?_eq_some {f : Slot} (found : h.activating? = some f) :
    f ∈ h.slots ∧ f.state = .activating :=
  ⟨List.mem_of_find?_eq_some found, by simpa using List.find?_some found⟩

theorem idle?_eq_some {f : Slot} (found : h.idle? = some f) : f ∈ h.slots ∧ f.state = .idle :=
  ⟨List.mem_of_find?_eq_some found, by simpa using List.find?_some found⟩

theorem isActivating_eq_false_iff :
    h.isActivating = false ↔ ∀ s ∈ h.slots, s.state ≠ .activating := by
  simp [isActivating, activating?]

/-! ### Settling -/

theorem Arranged.settle (a : h.Arranged bs fs) (cap next : Nat) :
    (h.settle cap next).1.Arranged bs
      (if bs.length < cap then (if fs = [] then [.offer ⟨next⟩] else fs)
        else fs.filter (·.state ≠ .idle)) := by
  unfold Host.settle
  rw [a.sessionCount, a.free?]
  by_cases below : bs.length < cap
  · cases fs with
    | nil =>
      simp only [below, if_true, List.head?_nil, Option.isSome_none, Bool.false_eq_true, if_false]
      exact ⟨by simp [a.slots], a.bound, by simp [Slot.isFree, Slot.terminal?, Slot.offer]⟩
    | cons f fs => simpa [below] using a
  · simp only [below, if_false]
    have kept : bs.filter (·.state ≠ .idle) = bs := by
      rw [List.filter_eq_self]
      intro s mem
      simpa using fun idle => absurd (Slot.isFree_of_state (Or.inl idle)) (by simp [a.bound s mem])
    exact ⟨by rw [a.slots, List.filter_append, kept], a.bound,
      fun s mem => a.free s (List.mem_filter.mp mem).1⟩

@[simp]
theorem selected_settle (h : Host) (cap next : Nat) :
    (h.settle cap next).1.selected = h.selected := by
  unfold settle
  repeat' split
  all_goals rfl

theorem activating?_settle (h : Host) (cap next : Nat) :
    (h.settle cap next).1.activating? = h.activating? := by
  simp only [activating?, settle]
  split
  · split
    · rfl
    · simp [Slot.offer]
  · rw [List.find?_filter]
    congr 1
    funext x
    cases state : x.state <;> simp

@[simp]
theorem id_settle (h : Host) (cap next : Nat) : (h.settle cap next).1.id = h.id := by
  simp [Host.id]

theorem le_settle (h : Host) (cap next : Nat) : next ≤ (h.settle cap next).2 := by
  unfold settle
  repeat' split
  all_goals simp

theorem mem_settle {s : Slot} (mem : s ∈ (h.settle cap next).1.slots) :
    s ∈ h.slots ∨ s.id.number = next ∧ next < (h.settle cap next).2 := by
  unfold settle at mem ⊢
  split at mem
  · split at mem
    · exact Or.inl mem
    · rename_i below absent
      rcases List.mem_append.mp mem with old | fresh
      · exact Or.inl old
      · rw [List.mem_singleton.mp fresh]
        exact Or.inr (by simp [below, absent, Slot.offer])
  · exact Or.inl (List.mem_filter.mp mem).1

theorem numbered_settle (numbered : (h.slots.map Slot.id).Nodup)
    (below : ∀ s ∈ h.slots, s.id.number < next) :
    ((h.settle cap next).1.slots.map Slot.id).Nodup := by
  unfold settle
  split
  · split
    · exact numbered
    · rw [List.map_append, List.nodup_append]
      refine ⟨numbered, by simp, ?_⟩
      intro i hi j hj same
      obtain ⟨s, mem, rfl⟩ := List.mem_map.mp hi
      obtain rfl := List.mem_singleton.mp hj
      have small := below s mem
      simp [same, Slot.offer] at small
  · exact numbered.sublist (List.filter_sublist.map Slot.id)

theorem terminals_settle (h : Host) (cap next : Nat) :
    (h.settle cap next).1.terminals = h.terminals := by
  unfold settle
  split
  · split
    · rfl
    · simp [terminals, Slot.terminal?, Slot.offer]
  · simp only [terminals, List.filterMap_filter]
    apply List.filterMap_congr
    intro s _
    cases state : s.state <;> simp [Slot.terminal?, state]

end Host

end Switchboard
