import Mathlib.Data.List.Induction
import Switchboard.Proofs.Event.Delivery

/-!
# Attendance

What is seen at a bus from the outside tells who is registered: who joined and has neither been
removed nor dropped out. `Follows` says what may be seen next, and `Attested.call` that every call
is answered so.
-/

namespace Switchboard

/-- A subscriber once an event has been published that it did not drop out at. -/
def Subscription.told (sender : Option SubscriberId) (e : Event) (s : Subscription) :
    Subscription :=
  if sender = some s.id then s else { s with received := e :: s.received }

theorem Subscription.id_told (sender : Option SubscriberId) (e : Event) (s : Subscription) :
    (s.told sender e).id = s.id := by
  unfold told
  split <;> rfl

theorem Subscription.handler_told (sender : Option SubscriberId) (e : Event) (s : Subscription) :
    (s.told sender e).handler = s.handler := by
  unfold told
  split <;> rfl

namespace Bus

/-- A call of a bus. -/
inductive Call where
  | subscribe (handler : Handler)
  | unsubscribe (id : SubscriberId)
  | publish (sender : Option SubscriberId) (e : Event)

/-- What is seen of a call. -/
inductive Sight where
  | joined (id : SubscriberId) (handler : Handler)
  | removed (id : SubscriberId) (found : Bool)
  /-- `left`: those who dropped out when they received the event. -/
  | published (sender : Option SubscriberId) (e : Event) (deliveries : List Delivery)
      (left : List SubscriberId)

/-- Who drops out when an event is published. -/
def leaving (b : Bus) (sender : Option SubscriberId) (e : Event) : List SubscriberId :=
  ((b.audience sender).filter fun s => !s.handler (e :: s.received)).map Subscription.id

def call (b : Bus) : Call → Sight × Bus
  | .subscribe handler =>
    let (id, bus) := b.subscribe handler
    (.joined id handler, bus)
  | .unsubscribe id => (.removed id (b.removes id), b.unsubscribe id)
  | .publish sender e =>
    let (deliveries, bus) := b.publish sender e
    (.published sender e deliveries (b.leaving sender e), bus)

def callAll (b : Bus) : List Call → List Sight × Bus
  | [] => ([], b)
  | c :: calls =>
    let (sight, bus) := b.call c
    let (sights, bus) := bus.callAll calls
    (sight :: sights, bus)

namespace Sight

def joined? : Sight → Option SubscriberId
  | .joined id _ => some id
  | _ => none

def deliveries : Sight → List Delivery
  | .published _ _ ds _ => ds
  | _ => []

/-- Who is registered no more. -/
def leavers : Sight → List SubscriberId
  | .joined _ _ => []
  | .removed id _ => [id]
  | .published _ _ _ left => left

end Sight

/-- Who is registered after what was seen, in the order in which they joined. -/
def registered (log : List Sight) : List SubscriberId :=
  log.foldl (fun ids s => ids.filter (· ∉ s.leavers) ++ s.joined?.toList) []

/-- What was delivered to a subscriber, last one first. -/
def heard (id : SubscriberId) (log : List Sight) : List Event :=
  (receivedBy id (log.flatMap Sight.deliveries)).reverse

/-- What may be seen next. -/
def Follows (log : List Sight) : Sight → Prop
  | .joined id _ => id ∉ log.filterMap Sight.joined?
  | .removed id found => found = true ↔ id ∈ registered log
  | .published sender e deliveries left =>
    deliveries = ((registered log).filter (sender ≠ some ·)).map (·, e) ∧
      ∀ id, id ∈ left ↔ id ∈ registered log ∧ sender ≠ some id ∧
        ∃ handler, .joined id handler ∈ log ∧ handler (e :: heard id log) = false

def Lawful (log : List Sight) : Prop :=
  ∀ early s late, log = early ++ s :: late → Follows early s

/-- The subscribers of a bus are those that are registered after what was seen, each with what it
received. -/
structure Attested (b : Bus) (log : List Sight) : Prop where
  numbered : b.Numbered
  ids : b.ids = registered log
  given : log.filterMap Sight.joined? = (List.range b.next).map SubscriberId.mk
  joined : ∀ s ∈ b.subscriptions, .joined s.id s.handler ∈ log
  heard : ∀ s ∈ b.subscriptions, s.received = heard s.id log
  unheard : ∀ id : SubscriberId, b.next ≤ id.number → Bus.heard id log = []
  lawful : Lawful log

variable {b : Bus} {id : SubscriberId} {sender : Option SubscriberId} {e : Event}
  {log early late : List Sight} {s : Sight}

/-! ### What one more sight tells -/

theorem registered_concat (log : List Sight) (s : Sight) :
    registered (log ++ [s]) = (registered log).filter (· ∉ s.leavers) ++ s.joined?.toList := by
  simp [registered]

theorem heard_concat (id : SubscriberId) (log : List Sight) (s : Sight) :
    heard id (log ++ [s]) = (receivedBy id s.deliveries).reverse ++ heard id log := by
  simp [heard, receivedBy]

theorem Lawful.concat (l : Lawful log) (f : Follows log s) : Lawful (log ++ [s]) := by
  intro early s' late split
  rcases List.eq_nil_or_concat late with rfl | ⟨rest, last, rfl⟩
  · obtain ⟨rfl, same⟩ := List.append_inj' split rfl
    obtain rfl := List.cons.inj same |>.1
    exact f
  · rw [List.concat_eq_append, ← List.cons_append, ← List.append_assoc] at split
    exact l early s' rest (List.append_inj' split rfl).1

/-! ### Every call is answered as it should be -/

theorem size_eq (b : Bus) : b.size = b.ids.length := (List.length_map Subscription.id).symm

theorem removes_iff : b.removes id = true ↔ id ∈ b.ids := by
  simp only [removes, size_eq, ids_unsubscribe_eq, bne_iff_ne, ne_eq,
    List.length_filter_eq_length_iff]
  simp

theorem mem_leaving : id ∈ b.leaving sender e ↔
    ∃ s ∈ b.subscriptions, s.id = id ∧ sender ≠ some id ∧ s.handler (e :: s.received) = false := by
  simp only [leaving, audience, List.mem_map, List.mem_filter]
  constructor
  · rintro ⟨s, ⟨⟨mem, apart⟩, out⟩, rfl⟩
    exact ⟨s, mem, rfl, by simpa using apart, by simpa using out⟩
  · rintro ⟨s, mem, rfl, apart, out⟩
    exact ⟨s, ⟨⟨mem, by simpa using apart⟩, by simpa using out⟩, rfl⟩

theorem eq_of_id (n : b.Numbered) {s s' : Subscription} (mem : s ∈ b.subscriptions)
    (mem' : s' ∈ b.subscriptions) (same : s.id = s'.id) : s = s' :=
  List.inj_on_of_nodup_map n.distinct mem mem' same

theorem subscriptions_publish (n : b.Numbered) (sender : Option SubscriberId) (e : Event) :
    (b.publish sender e).2.subscriptions =
      (b.subscriptions.filter (·.id ∉ b.leaving sender e)).map (Subscription.told sender e) := by
  rw [← List.filterMap_eq_map, List.filterMap_filter]
  apply List.filterMap_congr
  intro s mem
  have leaves : s.id ∈ b.leaving sender e ↔
      sender ≠ some s.id ∧ s.handler (e :: s.received) = false := by
    rw [mem_leaving]
    constructor
    · rintro ⟨s', mem', same, apart, out⟩
      obtain rfl := eq_of_id n mem' mem same
      exact ⟨apart, out⟩
    · exact fun ⟨apart, out⟩ => ⟨s, mem, rfl, apart, out⟩
  by_cases own : sender = some s.id
  · have kept : s.id ∉ b.leaving sender e := fun out => (leaves.mp out).1 own
    subst own
    simp [kept, Subscription.told]
  · cases stays : s.handler (e :: s.received) <;>
      simp [leaves, own, stays, deliver?, Subscription.told]

theorem ids_publish_eq (n : b.Numbered) (sender : Option SubscriberId) (e : Event) :
    (b.publish sender e).2.ids = b.ids.filter (· ∉ b.leaving sender e) := by
  rw [ids, subscriptions_publish n, List.map_map, ids, List.filter_map]
  exact List.map_congr_left fun s _ => s.id_told sender e

theorem deliveries_publish (b : Bus) (sender : Option SubscriberId) (e : Event) :
    (b.publish sender e).1 = (b.ids.filter (sender ≠ some ·)).map (·, e) := by
  rw [ids, List.filter_map, List.map_map]
  rfl

namespace Attested

theorem mem_given (a : b.Attested log) :
    id ∈ log.filterMap Sight.joined? ↔ id.number < b.next := by
  rw [a.given, List.mem_map]
  constructor
  · rintro ⟨n, mem, rfl⟩
    exact List.mem_range.mp mem
  · exact fun small => ⟨id.number, List.mem_range.mpr small, rfl⟩

theorem nodup_given (a : b.Attested log) : (log.filterMap Sight.joined?).Nodup := by
  rw [a.given]
  exact List.nodup_range.map fun _ _ same => congrArg SubscriberId.number same

/-- A number stands for one subscriber, so for one handler. -/
theorem handler_unique {handler handler' : Handler} (a : b.Attested log)
    (mem : .joined id handler ∈ log) (mem' : .joined id handler' ∈ log) : handler' = handler := by
  obtain ⟨early, late, rfl⟩ := List.append_of_mem mem
  have one : (Sight.joined id handler :: late).filterMap Sight.joined? =
      id :: late.filterMap Sight.joined? := rfl
  have given := a.nodup_given
  rw [List.filterMap_append, one, List.nodup_middle, List.nodup_cons] at given
  have elsewhere : ∀ l : List Sight, .joined id handler' ∈ l → id ∈ l.filterMap Sight.joined? :=
    fun l inside => List.mem_filterMap.mpr ⟨_, inside, rfl⟩
  rcases List.mem_append.mp mem' with before | after
  · exact absurd (List.mem_append_left _ (elsewhere _ before)) given.1
  · rcases List.mem_cons.mp after with same | later
    · cases same
      rfl
    · exact absurd (List.mem_append_right _ (elsewhere _ later)) given.1

theorem subscribe (a : b.Attested log) (handler : Handler) :
    (b.subscribe handler).2.Attested (log ++ [.joined ⟨b.next⟩ handler]) where
  numbered := a.numbered.subscribe handler
  ids := by
    rw [ids_subscribe, registered_concat, a.ids]
    simp [Sight.leavers, Sight.joined?]
  given := by
    rw [List.filterMap_append, a.given]
    show _ = (List.range (b.next + 1)).map SubscriberId.mk
    rw [List.range_succ, List.map_append]
    rfl
  joined s mem := by
    rcases List.mem_append.mp mem with old | new
    · exact List.mem_append_left _ (a.joined s old)
    · rw [List.mem_singleton.mp new]
      exact List.mem_append_right _ List.mem_cons_self
  heard s mem := by
    rw [heard_concat]
    rcases List.mem_append.mp mem with old | new
    · exact a.heard s old
    · rw [List.mem_singleton.mp new]
      exact (a.unheard ⟨b.next⟩ (Nat.le_refl _)).symm
  unheard id large := by
    rw [heard_concat]
    exact a.unheard id (Nat.le_of_succ_le large)
  lawful := by
    refine a.lawful.concat fun given => ?_
    exact absurd (a.mem_given.mp given) (Nat.lt_irrefl _)

theorem unsubscribe (a : b.Attested log) (id : SubscriberId) :
    (b.unsubscribe id).Attested (log ++ [.removed id (b.removes id)]) where
  numbered := a.numbered.sublist (b.ids_unsubscribe id) rfl
  ids := by
    rw [ids_unsubscribe_eq, registered_concat, a.ids]
    simp [Sight.leavers, Sight.joined?]
  given := by
    rw [List.filterMap_append, a.given]
    exact List.append_nil _
  joined s mem := List.mem_append_left _ (a.joined s (List.mem_filter.mp mem).1)
  heard s mem := by
    rw [heard_concat]
    exact a.heard s (List.mem_filter.mp mem).1
  unheard other large := by
    rw [heard_concat]
    exact a.unheard other large
  lawful := a.lawful.concat (by rw [Follows, removes_iff, a.ids])

theorem publish (a : b.Attested log) (sender : Option SubscriberId) (e : Event) :
    (b.publish sender e).2.Attested
      (log ++ [.published sender e (b.publish sender e).1 (b.leaving sender e)]) where
  numbered := a.numbered.sublist (b.ids_publish sender e) rfl
  ids := by
    rw [ids_publish_eq a.numbered, registered_concat, a.ids]
    exact (List.append_nil _).symm
  given := by
    rw [List.filterMap_append, a.given]
    exact List.append_nil _
  joined s mem := by
    rw [subscriptions_publish a.numbered] at mem
    obtain ⟨s', inside, rfl⟩ := List.mem_map.mp mem
    rw [s'.id_told, s'.handler_told]
    exact List.mem_append_left _ (a.joined s' (List.mem_filter.mp inside).1)
  heard s mem := by
    rw [subscriptions_publish a.numbered] at mem
    obtain ⟨s', inside, rfl⟩ := List.mem_map.mp mem
    have old := (List.mem_filter.mp inside).1
    rw [heard_concat, s'.id_told, ← a.heard s' old]
    unfold Subscription.told
    split
    · rename_i own
      rw [own, Sight.deliveries, receivedBy_publish_own]
      rfl
    · rename_i other
      have here : b.contains s'.id := contains_iff.mpr (List.mem_map_of_mem old)
      rw [Sight.deliveries, receivedBy_publish a.numbered other, if_pos here]
      rfl
  unheard id large := by
    have strange : id ∉ b.ids := fun mem => Nat.not_lt.mpr large (a.numbered.below id mem)
    have absent : ¬ b.contains id := fun here => strange (contains_iff.mp here)
    rw [heard_concat, a.unheard id large, Sight.deliveries]
    by_cases own : sender = some id
    · rw [own, receivedBy_publish_own]
      rfl
    · rw [receivedBy_publish a.numbered own, if_neg absent]
      rfl
  lawful := by
    refine a.lawful.concat ⟨?_, fun id => ?_⟩
    · rw [deliveries_publish, a.ids]
    · rw [mem_leaving, ← a.ids]
      constructor
      · rintro ⟨s, mem, rfl, apart, out⟩
        exact ⟨List.mem_map_of_mem mem, apart, s.handler, a.joined s mem, a.heard s mem ▸ out⟩
      · rintro ⟨here, apart, handler, joined, out⟩
        obtain ⟨s, mem, rfl⟩ := List.mem_map.mp here
        refine ⟨s, mem, rfl, apart, ?_⟩
        rwa [a.heard s mem, ← a.handler_unique (a.joined s mem) joined]

theorem call (a : b.Attested log) (c : Call) :
    (b.call c).2.Attested (log ++ [(b.call c).1]) := by
  cases c with
  | subscribe handler => exact a.subscribe handler
  | unsubscribe id => exact a.unsubscribe id
  | publish sender e => exact a.publish sender e

theorem callAll (a : b.Attested log) (calls : List Call) :
    (b.callAll calls).2.Attested (log ++ (b.callAll calls).1) := by
  induction calls generalizing b log with
  | nil => simpa [Bus.callAll] using a
  | cons c calls ih =>
    have rest := ih (a.call c)
    rwa [List.append_assoc] at rest

end Attested

theorem attested_empty : ({} : Bus).Attested [] where
  numbered := numbered_empty
  ids := rfl
  given := rfl
  joined s mem := by cases mem
  heard s mem := by cases mem
  unheard _ _ := rfl
  lawful early s late split := by cases early <;> cases split

/-! ### Who is registered -/

/-- Subscribers are registered in the order in which they joined. -/
theorem registered_sublist (log : List Sight) :
    (registered log).Sublist (log.filterMap Sight.joined?) := by
  induction log using List.reverseRecOn with
  | nil => exact List.Sublist.slnil
  | append_singleton log s ih =>
    rw [registered_concat, List.filterMap_append]
    refine (List.filter_sublist.trans ih).append ?_
    cases s <;> exact List.Sublist.refl _

theorem notMem_registered_append (out : id ∉ registered early)
    (never : ∀ s ∈ late, s.joined? ≠ some id) : id ∉ registered (early ++ late) := by
  induction late using List.reverseRecOn with
  | nil => rwa [List.append_nil]
  | append_singleton late s ih =>
    obtain ⟨before, last⟩ := List.forall_mem_append.mp never
    rw [← List.append_assoc, registered_concat]
    intro mem
    rcases List.mem_append.mp mem with old | new
    · exact ih before (List.mem_filter.mp old).1
    · exact last s List.mem_cons_self (Option.mem_toList.mp new)

/-- A subscriber that is gone does not come back. -/
theorem notMem_registered_of_left
    (distinct : ((early ++ s :: late).filterMap Sight.joined?).Nodup)
    (known : id ∈ early.filterMap Sight.joined?) (leaves : id ∈ s.leavers) :
    id ∉ registered (early ++ s :: late) := by
  rw [List.filterMap_append] at distinct
  have never : ∀ s' ∈ s :: late, s'.joined? ≠ some id := fun s' mem same =>
    List.disjoint_of_nodup_append distinct known (List.mem_filterMap.mpr ⟨s', mem, same⟩)
  obtain ⟨first, rest⟩ := List.forall_mem_cons.mp never
  have out : id ∉ registered (early ++ [s]) := by
    rw [registered_concat]
    intro mem
    rcases List.mem_append.mp mem with old | new
    · exact absurd leaves (by simpa using (List.mem_filter.mp old).2)
    · exact first (Option.mem_toList.mp new)
  have gone := notMem_registered_append out rest
  rwa [List.append_assoc, List.singleton_append] at gone

theorem receivedBy_of_notMem {ids : List SubscriberId} (out : id ∉ ids) (e : Event) :
    receivedBy id (ids.map (·, e)) = [] := by
  rw [receivedBy, List.filterMap_map, List.filterMap_eq_nil_iff]
  intro other mem
  have apart : other ≠ id := fun same => out (same ▸ mem)
  simp [apart]

/-- Whatever is subscribed, removed and published, and whenever handlers drop out: an event reaches
those who are registered at that moment and did not send it, each once and in the order in which
they joined. Who is gone hears nothing more, who sends stays, numbers are not given twice, removing
tells who was registered, and the size is how many are. -/
theorem calls_attested (calls : List Call) :
    let log := (({} : Bus).callAll calls).1
    let b := (({} : Bus).callAll calls).2
    (∀ early sender e ds left late, log = early ++ .published sender e ds left :: late →
      ds = ((registered early).filter (sender ≠ some ·)).map (·, e) ∧ (registered early).Nodup ∧
      (∀ id, id ∈ left ↔ id ∈ registered early ∧ sender ≠ some id ∧
        ∃ handler, .joined id handler ∈ early ∧ handler (e :: heard id early) = false) ∧
      ∀ id ∈ registered early, sender = some id →
        id ∈ registered (early ++ [.published sender e ds left])) ∧
    (∀ early s late, log = early ++ s :: late →
      ∀ id ∈ early.filterMap Sight.joined?, id ∈ s.leavers →
        ∀ s' ∈ late, receivedBy id s'.deliveries = []) ∧
    (log.filterMap Sight.joined?).Nodup ∧
    (∀ early id found late, log = early ++ .removed id found :: late →
      (found = true ↔ id ∈ registered early)) ∧
    b.ids = registered log ∧ b.size = (registered log).length := by
  intro log b
  have a : b.Attested log := by simpa using attested_empty.callAll calls
  have distinct := a.nodup_given
  refine ⟨?_, ?_, distinct, ?_, a.ids, ?_⟩
  · intro early sender e ds left late split
    obtain ⟨reached, answered⟩ := a.lawful early _ late split
    refine ⟨reached, ?_, answered, fun id here own => ?_⟩
    · rw [split, List.filterMap_append] at distinct
      exact distinct.of_append_left.sublist (registered_sublist early)
    · have kept : id ∉ left := fun out => ((answered id).mp out).2.1 own
      rw [registered_concat]
      exact List.mem_append_left _ (List.mem_filter.mpr ⟨here, decide_eq_true kept⟩)
  · intro early s late split id known leaves s' mem
    obtain ⟨mid, rest, rfl⟩ := List.append_of_mem mem
    rw [← List.cons_append, ← List.append_assoc] at split
    rw [split, List.filterMap_append] at distinct
    have gone := notMem_registered_of_left distinct.of_append_left known leaves
    have follows := a.lawful _ s' rest split
    cases s' with
    | joined | removed => rfl
    | published sender e ds left =>
      rw [Sight.deliveries, follows.1]
      exact receivedBy_of_notMem (fun mem => gone (List.mem_filter.mp mem).1) e
  · exact fun early id found late split => a.lawful early _ late split
  · rw [size_eq, a.ids]

theorem calls_attested_dropout :
    let e : Event := .hostSelected none
    let calls : List Call :=
      [.subscribe (.leaveAt 1), .subscribe .stay, .publish none e, .publish none e]
    let log := (({} : Bus).callAll calls).1
    let early := log.take 2
    let first : Sight := .published none e [(⟨0⟩, e), (⟨1⟩, e)] [⟨0⟩]
    let second : Sight := .published none e [(⟨1⟩, e)] []
    log = early ++ first :: [second] ∧ (⟨0⟩ : SubscriberId) ∈ early.filterMap Sight.joined? ∧
      (⟨0⟩ : SubscriberId) ∈ first.leavers ∧ receivedBy ⟨0⟩ second.deliveries = [] := by
  intro e calls log early first second
  have split : log = early ++ first :: [second] := rfl
  have known : (⟨0⟩ : SubscriberId) ∈ early.filterMap Sight.joined? := List.mem_cons_self
  have leaves : (⟨0⟩ : SubscriberId) ∈ first.leavers := List.mem_cons_self
  obtain ⟨-, gone, -⟩ := calls_attested calls
  exact ⟨split, known, leaves, gone early first [second] split ⟨0⟩ known leaves second
    List.mem_cons_self⟩

end Bus

end Switchboard
