import Switchboard.Event.Bus
import Switchboard.Proofs.Keyed

/-!
# What reaches a subscriber

While a subscriber is registered, every event that is not its own reaches it once. `Listens`: what
reached it is the beginning of what was published, and all of it while it is registered.
-/

namespace Switchboard

def receivedBy (id : SubscriberId) (ds : List Delivery) : List Event :=
  ds.filterMap fun d => if d.1 = id then some d.2 else none

namespace Bus

variable {b : Bus} {id other : SubscriberId} {sender : Option SubscriberId} {e : Event}
  {handler : Handler} {log all : List Event}

def ids (b : Bus) : List SubscriberId := b.subscriptions.map Subscription.id

theorem contains_iff : b.contains id = true ↔ id ∈ b.ids := by
  simp [contains, ids]

/-- No two subscribers share a number, and later ones get larger numbers. -/
structure Numbered (b : Bus) : Prop where
  distinct : b.ids.Nodup
  below : ∀ id ∈ b.ids, id.number < b.next

theorem numbered_empty : ({} : Bus).Numbered := ⟨List.nodup_nil, by simp [ids]⟩

theorem ids_subscribe (b : Bus) (handler : Handler) :
    (b.subscribe handler).2.ids = b.ids ++ [⟨b.next⟩] := by
  simp [subscribe, ids]

theorem ids_unsubscribe_eq (b : Bus) (id : SubscriberId) :
    (b.unsubscribe id).ids = b.ids.filter (· ≠ id) := by
  rw [ids, ids, List.filter_map]
  rfl

theorem ids_unsubscribe (b : Bus) (id : SubscriberId) :
    (b.unsubscribe id).ids.Sublist b.ids := List.filter_sublist.map Subscription.id

theorem id_of_deliver? {s s' : Subscription} (stays : deliver? e s = some s') : s'.id = s.id := by
  unfold deliver? at stays
  split at stays
  · rw [← Option.some.inj stays]
  · cases stays

theorem ids_publish (b : Bus) (sender : Option SubscriberId) (e : Event) :
    (b.publish sender e).2.ids.Sublist b.ids := by
  simp only [publish, ids]
  induction b.subscriptions with
  | nil => exact List.Sublist.slnil
  | cons s l ih =>
    rw [List.filterMap_cons]
    split
    · exact ih.cons s.id
    · rename_i s' stays
      have same : s'.id = s.id := by
        split at stays
        · rw [Option.some.inj stays]
        · exact id_of_deliver? stays
      rw [List.map_cons, List.map_cons, same]
      exact ih.cons_cons s.id

theorem Numbered.sublist {b' : Bus} (n : b.Numbered) (fewer : b'.ids.Sublist b.ids)
    (same : b'.next = b.next) : b'.Numbered :=
  ⟨n.distinct.sublist fewer, fun id mem => same ▸ n.below id (fewer.subset mem)⟩

theorem Numbered.subscribe (n : b.Numbered) (handler : Handler) :
    (b.subscribe handler).2.Numbered := by
  constructor
  · rw [ids_subscribe, List.nodup_append]
    refine ⟨n.distinct, by simp, ?_⟩
    rintro id mem new here rfl
    have small := n.below id mem
    rw [List.mem_singleton.mp here] at small
    exact absurd small (Nat.lt_irrefl _)
  · intro id mem
    show id.number < b.next + 1
    rw [ids_subscribe] at mem
    rcases List.mem_append.mp mem with old | new
    · exact Nat.lt_succ_of_lt (n.below id old)
    · rw [List.mem_singleton.mp new]
      exact Nat.lt_succ_self _

theorem receivedBy_map {l : List Subscription} (distinct : (l.map Subscription.id).Nodup)
    (id : SubscriberId) (e : Event) :
    receivedBy id (l.map fun s => (s.id, e)) =
      if id ∈ l.map Subscription.id then [e] else [] := by
  induction l with
  | nil => rfl
  | cons s l ih =>
    rw [List.map_cons, List.nodup_cons] at distinct
    have rest := ih distinct.2
    by_cases same : s.id = id
    · subst same
      rw [if_neg distinct.1] at rest
      simp only [receivedBy] at rest
      simp [receivedBy, rest]
    · have other : id ≠ s.id := fun e => same e.symm
      simp only [receivedBy] at rest
      simp [receivedBy, same, other, rest]

/-- An event reaches every subscriber but its sender once. -/
theorem receivedBy_publish (n : b.Numbered) (apart : sender ≠ some id) (e : Event) :
    receivedBy id (b.publish sender e).1 = if b.contains id then [e] else [] := by
  have fewer : ((b.audience sender).map Subscription.id).Nodup :=
    n.distinct.sublist (List.filter_sublist.map Subscription.id)
  have same : id ∈ (b.audience sender).map Subscription.id ↔ b.contains id := by
    rw [contains_iff, audience, ids]
    constructor
    · exact fun mem => (List.filter_sublist.map Subscription.id).subset mem
    · intro mem
      obtain ⟨s, inside, rfl⟩ := List.mem_map.mp mem
      exact List.mem_map_of_mem (List.mem_filter.mpr ⟨inside, by simpa using apart⟩)
  simp only [publish, receivedBy_map fewer, same]

theorem receivedBy_publish_own (b : Bus) (id : SubscriberId) (e : Event) :
    receivedBy id (b.publish (some id) e).1 = [] := by
  simp only [publish, audience, receivedBy, List.filterMap_map, List.filterMap_eq_nil_iff]
  intro s mem
  have other : ¬ id = s.id := by simpa using (List.mem_filter.mp mem).2
  simp [Ne.symm other]

/-- What reached a subscriber is the beginning of what was published, and all of it as long as the
subscriber is registered. -/
structure Listens (b : Bus) (id : SubscriberId) (log all : List Event) : Prop where
  numbered : b.Numbered
  old : id.number < b.next
  early : log <+: all
  whole : b.contains id → log = all

theorem Numbered.listens (n : b.Numbered) (handler : Handler) :
    (b.subscribe handler).2.Listens (b.subscribe handler).1 [] [] :=
  ⟨n.subscribe handler, Nat.lt_succ_self _, List.prefix_rfl, fun _ => rfl⟩

theorem Listens.publish (l : b.Listens id log all) (apart : sender ≠ some id) (e : Event) :
    (b.publish sender e).2.Listens id (log ++ receivedBy id (b.publish sender e).1)
      (all ++ [e]) where
  numbered := l.numbered.sublist (b.ids_publish sender e) rfl
  old := l.old
  early := by
    rw [receivedBy_publish l.numbered apart]
    split
    · rename_i here
      obtain rfl := l.whole here
      exact List.prefix_rfl
    · rw [List.append_nil]
      exact l.early.trans (List.prefix_append all [e])
  whole here := by
    have before : b.contains id :=
      contains_iff.mpr ((b.ids_publish sender e).subset (contains_iff.mp here))
    rw [receivedBy_publish l.numbered apart, if_pos before, l.whole before]

theorem Listens.subscribe (l : b.Listens id log all) (handler : Handler) :
    (b.subscribe handler).2.Listens id log all where
  numbered := l.numbered.subscribe handler
  old := Nat.lt_succ_of_lt l.old
  early := l.early
  whole here := by
    rw [contains_iff, ids_subscribe] at here
    rcases List.mem_append.mp here with old | new
    · exact l.whole (contains_iff.mpr old)
    · have small := l.old
      rw [List.mem_singleton.mp new] at small
      exact absurd small (Nat.lt_irrefl _)

theorem Listens.unsubscribe (l : b.Listens id log all) (other : SubscriberId) :
    (b.unsubscribe other).Listens id log all where
  numbered := l.numbered.sublist (b.ids_unsubscribe other) rfl
  old := l.old
  early := l.early
  whole here := l.whole (contains_iff.mpr ((b.ids_unsubscribe other).subset (contains_iff.mp here)))

end Bus

end Switchboard
