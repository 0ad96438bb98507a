import Switchboard.Proofs.Desk.History

/-!
# Who hears of an event

What the subscribers other than the presenter hear depends on the events alone, and not on whose
behalf they were published. The presenter hears those of the server, and they come to it as cues.
-/

namespace Switchboard

variable {b : Bus} {presenter : SubscriberId} {origin : Origin} {acts : List Act} {e : Event}

def Cue.event? : Cue → Option Event
  | .event e => some e
  | _ => none

def Act.cue? : Act → Option Cue
  | .cue c => some c
  | _ => none

/-- Whether an act is done for a speaker: events are published on its behalf, and no cue brings one.
Without a speaker nothing is published. -/
def Act.SpeaksFor (speaker : Option Origin) : Act → Prop
  | .cue c => c.event? = none
  | .send _ => True
  | .publish origin _ => speaker = some origin

namespace Bus

/-! ### The other subscribers -/

/-- The subscribers other than the presenter. -/
def others (b : Bus) (presenter : SubscriberId) : List Subscription :=
  b.subscriptions.filter (·.id ≠ presenter)

/-- What subscribers hear of events that are published one after the other. -/
def hear (listeners : List Subscription) : List Event → List Delivery
  | [] => []
  | e :: es => listeners.map (fun s => (s.id, e)) ++ hear (listeners.filterMap (deliver? e)) es

theorem filter_deliver? (e : Event) (s : Subscription) (presenter : SubscriberId) :
    (deliver? e s).filter (·.id ≠ presenter) =
      if s.id = presenter then none else deliver? e s := by
  unfold deliver?
  split <;> by_cases same : s.id = presenter <;> simp [Option.filter_some, same]

theorem others_publish (b : Bus) (presenter : SubscriberId) (origin : Origin) (e : Event) :
    (b.publish (origin.sender presenter) e).2.others presenter =
      (b.others presenter).filterMap (deliver? e) := by
  simp only [others, publish, List.filter_filterMap, List.filterMap_filter]
  apply List.filterMap_congr
  intro s _
  by_cases same : s.id = presenter
  · cases origin with
    | server => simpa [Origin.sender, same] using filter_deliver? e s presenter
    | presenter => simp [Origin.sender, same, Option.filter_some]
  · have passes : origin.sender presenter ≠ some s.id := by
      cases origin <;> simp [Origin.sender, Ne.symm same]
    simpa [passes, same] using filter_deliver? e s presenter

theorem filter_publish (b : Bus) (presenter : SubscriberId) (origin : Origin) (e : Event) :
    (b.publish (origin.sender presenter) e).1.filter (·.1 ≠ presenter) =
      (b.others presenter).map fun s => (s.id, e) := by
  simp only [publish, audience, others, List.filter_map, List.filter_filter]
  congr 1
  apply List.filter_congr
  intro s _
  by_cases same : s.id = presenter
  · simp [same]
  · cases origin <;> simp [Origin.sender, same, Ne.symm same]

end Bus

open Bus

/-! ### What acts make the others hear -/

theorem deliveries_relayAll (presenter : SubscriberId) (b : Bus) (acts : List Act) :
    Effect.deliveries (b.relayAll presenter acts).2 =
      hear (b.others presenter) (acts.filterMap Act.event?) := by
  induction acts generalizing b with
  | nil => rfl
  | cons act acts ih =>
    simp only [relayAll, Effect.deliveries_append, ih]
    cases act with
    | cue c => rfl
    | send r => rfl
    | publish origin e =>
      have events : (Act.publish origin e :: acts).filterMap Act.event? =
          e :: acts.filterMap Act.event? := rfl
      rw [events, hear, ← b.others_publish presenter origin, ← b.filter_publish presenter origin]
      simp [relay, Effect.deliveries, List.filterMap_map]

/-! ### What acts make the presenter hear -/

theorem cues_publish (presenter : SubscriberId) (b : Bus) (origin : Origin) (e : Event) :
    Effect.cues (b.relay presenter (.publish origin e)).2 =
      (receivedBy presenter (b.publish (origin.sender presenter) e).1).map .event := by
  simp only [relay, Effect.cues_append, receivedBy]
  generalize (b.publish (origin.sender presenter) e).1 = ds
  induction ds with
  | nil => rfl
  | cons d ds ih =>
    by_cases same : d.1 = presenter <;> simpa [Effect.cues, same] using ih

/-- The cues that bring no event are those of the acts. -/
theorem plain_cues_relayAll (presenter : SubscriberId) (b : Bus) (acts : List Act) :
    (Effect.cues (b.relayAll presenter acts).2).filter (·.event?.isNone) =
      (acts.filterMap Act.cue?).filter (·.event?.isNone) := by
  induction acts generalizing b with
  | nil => rfl
  | cons act acts ih =>
    simp only [relayAll, Effect.cues_append, List.filter_append, ih]
    cases act with
    | cue c => exact (List.filter_append [c] _).symm
    | send r => rfl
    | publish origin e =>
      have none : ∀ es : List Event, (es.map Cue.event).filter (·.event?.isNone) = [] := by
        intro es
        simp [List.filter_map, Cue.event?]
      rw [cues_publish, none]
      rfl

theorem plain_of_speaksFor {speaker : Option Origin} (speaks : ∀ act ∈ acts, act.SpeaksFor speaker) :
    ∀ c ∈ acts.filterMap Act.cue?, c.event? = none := by
  intro c mem
  obtain ⟨act, inside, same⟩ := List.mem_filterMap.mp mem
  have plain := speaks act inside
  cases act with
  | cue c' =>
    obtain rfl := Option.some.inj same
    exact plain
  | send | publish => cases same

/-- The presenter does not hear of what it published. -/
theorem cues_of_presenter {speaker : Option Origin} (presenter : SubscriberId) (b : Bus)
    (own : ∀ act ∈ acts, act.SpeaksFor speaker) (other : speaker ≠ some .server) :
    Effect.cues (b.relayAll presenter acts).2 = acts.filterMap Act.cue? := by
  induction acts generalizing b with
  | nil => rfl
  | cons act acts ih =>
    obtain ⟨first, own'⟩ := List.forall_mem_cons.mp own
    simp only [relayAll, Effect.cues_append, ih _ own']
    cases act with
    | cue c => rfl
    | send r => rfl
    | publish origin e =>
      obtain rfl : origin = .presenter := by
        cases origin with
        | server => exact absurd first other
        | presenter => rfl
      rw [cues_publish, show Origin.presenter.sender presenter = some presenter from rfl,
        receivedBy_publish_own]
      rfl

/-! ### The presenter stays -/

/-- The presenter does not drop out, and no later subscriber gets its number. -/
structure Bus.Attends (b : Bus) (presenter : SubscriberId) : Prop where
  numbered : b.Numbered
  old : presenter.number < b.next
  stays : ∀ s ∈ b.subscriptions, s.id = presenter → s.handler = .stay

namespace Bus.Attends

theorem publish (a : b.Attends presenter) (sender : Option SubscriberId) (e : Event) :
    (b.publish sender e).2.Attends presenter where
  numbered := a.numbered.sublist (b.ids_publish sender e) rfl
  old := a.old
  stays s' mem same := by
    obtain ⟨s, inside, there⟩ := List.mem_filterMap.mp mem
    have kept : s'.id = s.id ∧ s'.handler = s.handler := by
      unfold deliver? at there
      split at there
      · obtain rfl := Option.some.inj there
        exact ⟨rfl, rfl⟩
      · split at there
        · obtain rfl := Option.some.inj there
          exact ⟨rfl, rfl⟩
        · cases there
    rw [kept.2]
    exact a.stays s inside (kept.1.symm.trans same)

theorem contains_publish (a : b.Attends presenter) (sender : Option SubscriberId) (e : Event) :
    (b.publish sender e).2.contains presenter = b.contains presenter := by
  rw [Bool.eq_iff_iff, contains_iff, contains_iff]
  refine ⟨fun mem => (b.ids_publish sender e).subset mem, fun mem => ?_⟩
  obtain ⟨s, inside, same⟩ := List.mem_map.mp mem
  have stays : deliver? e s = some { s with received := e :: s.received } := by
    simp [deliver?, a.stays s inside same, Handler.stay]
  refine List.mem_map.mpr ?_
  by_cases own : sender = some s.id
  · exact ⟨s, List.mem_filterMap.mpr ⟨s, inside, if_pos own⟩, same⟩
  · exact ⟨_, List.mem_filterMap.mpr ⟨s, inside, (if_neg own).trans stays⟩, same⟩

theorem contains_relayAll (a : b.Attends presenter) (acts : List Act) :
    (b.relayAll presenter acts).1.contains presenter = b.contains presenter := by
  induction acts generalizing b with
  | nil => rfl
  | cons act acts ih =>
    cases act with
    | cue | send => exact ih a
    | publish origin e => exact (ih (a.publish _ e)).trans (a.contains_publish _ e)

theorem subscribe (a : b.Attends presenter) (handler : Handler) :
    (b.subscribe handler).2.Attends presenter where
  numbered := a.numbered.subscribe handler
  old := Nat.lt_succ_of_lt a.old
  stays s mem same := by
    rcases List.mem_append.mp mem with before | new
    · exact a.stays s before same
    · have small := a.old
      rw [← same, List.mem_singleton.mp new] at small
      exact absurd small (Nat.lt_irrefl _)

theorem unsubscribe (a : b.Attends presenter) (id : SubscriberId) :
    (b.unsubscribe id).Attends presenter where
  numbered := a.numbered.sublist (b.ids_unsubscribe id) rfl
  old := a.old
  stays s mem := a.stays s (List.mem_filter.mp mem).1

theorem relayAll (a : b.Attends presenter) (acts : List Act) :
    (b.relayAll presenter acts).1.Attends presenter := by
  induction acts generalizing b with
  | nil => exact a
  | cons act acts ih =>
    cases act with
    | cue | send => exact ih a
    | publish origin e => exact ih (a.publish _ e)

end Bus.Attends

/-- While it is subscribed, the presenter hears every event of the server once. -/
theorem event_cues_of_server (a : b.Attends presenter)
    (theirs : ∀ act ∈ acts, act.SpeaksFor (some .server)) :
    (Effect.cues (b.relayAll presenter acts).2).filterMap Cue.event? =
      if b.contains presenter then acts.filterMap Act.event? else [] := by
  induction acts generalizing b with
  | nil => simp [Bus.relayAll, Effect.cues]
  | cons act acts ih =>
    obtain ⟨first, theirs'⟩ := List.forall_mem_cons.mp theirs
    simp only [Bus.relayAll, Effect.cues_append, List.filterMap_append]
    cases act with
    | cue c =>
      have plain : c.event? = none := first
      have silent : [c].filterMap Cue.event? = [] := by simp [plain]
      exact (congrArg (· ++ _) silent).trans (ih a theirs')
    | send r => exact ih a theirs'
    | publish origin e =>
      obtain rfl : Origin.server = origin := Option.some.inj first
      have events : ∀ es : List Event, (es.map Cue.event).filterMap Cue.event? = es := by
        intro es
        simp [List.filterMap_map, Function.comp_def, Cue.event?]
      have heard : Origin.server.sender presenter = none := rfl
      have rest := ih (a.publish none e) theirs'
      rw [a.contains_publish] at rest
      rw [cues_publish, events, heard, receivedBy_publish a.numbered (by simp)]
      refine (congrArg (_ ++ ·) rest).trans ?_
      split <;> rfl

namespace Desk

variable {d : Desk} {speaker : Option Origin} {host : HostId}

/-! ### On whose behalf acts are done -/

theorem speaksFor_hostActs {cue : Host → Cue} (plain : ∀ h, (cue h).event? = none) (d : Desk)
    (host : HostId) : ∀ act ∈ d.hostActs cue host, act.SpeaksFor speaker := by
  intro act mem
  obtain ⟨h, _, rfl⟩ := Option.map_eq_some_iff.mp (Option.mem_toList.mp mem)
  exact plain h

theorem plain_refreshCues (d : Desk) : ∀ c ∈ d.refreshCues, c.event? = none := by
  intro c mem
  rcases List.mem_cons.mp mem with rfl | files
  · rfl
  · obtain ⟨t, _, rfl⟩ := List.mem_map.mp files
    rfl

theorem speaksFor_refreshActs (d : Desk) (origin : Origin) :
    ∀ act ∈ d.refreshActs origin, act.SpeaksFor (some origin) := by
  unfold refreshActs
  split
  · rw [List.forall_mem_append, List.forall_mem_map, List.forall_mem_singleton]
    exact ⟨d.plain_refreshCues, rfl⟩
  · exact List.forall_mem_nil _

theorem speaksFor_closeActs (d : Desk) (origin : Origin) (host : HostId) (t : TerminalId) :
    ∀ act ∈ d.closeActs origin host t, act.SpeaksFor (some origin) := by
  rw [closeActs, List.forall_mem_append, List.forall_mem_append, List.forall_mem_singleton]
  refine ⟨⟨fun act mem => ?_, rfl⟩, speaksFor_hostActs (fun _ => rfl) d host⟩
  split at mem
  · rw [List.mem_singleton.mp mem]
    trivial
  · cases mem

theorem speaksFor_endActs (host : HostId) (ts : List TerminalId) :
    ∀ act ∈ ts.flatMap (endActs host), act.SpeaksFor (some .server) := by
  rw [List.forall_mem_flatMap]
  intro t _
  rw [endActs, List.forall_mem_cons, List.forall_mem_singleton]
  exact ⟨trivial, rfl⟩

theorem speaksFor_listingActs (d : Desk) (t : TerminalId) :
    ∀ act ∈ d.listingActs t, act.SpeaksFor speaker := by
  unfold listingActs
  repeat' split
  · exact List.forall_mem_nil _
  · exact List.forall_mem_singleton.mpr rfl
  · exact List.forall_mem_singleton.mpr trivial

/-! ### Runs -/

theorem attends_start (settings : Settings) :
    (start settings).1.bus.Attends (start settings).1.presenter where
  numbered := Bus.numbered_empty.subscribe .stay
  old := Nat.zero_lt_one
  stays s mem _ := by rw [List.mem_singleton.mp mem]

theorem attends_handle (a : d.bus.Attends d.presenter) (op : Operation) :
    (handle op d).1.bus.Attends (handle op d).1.presenter := by
  obtain ⟨d₁, acts, d₂, more, _, _, e⟩ := handle_moves op d
  rw [presenter_handle, e.eq]
  exact a.relayAll (acts ++ more)

theorem attends_history (settings : Settings) (turns : List Turn) :
    let d := ((start settings).1.takeAll turns).1
    d.bus.Attends d.presenter := by
  refine (takeAll_induction (P := fun d => d.bus.Attends d.presenter)
    (fun _ op a => attends_handle a op) (fun d e a => ?_) (attends_start settings) turns).1
  cases e with
  | subscribe handler => exact a.subscribe handler
  | unsubscribe id => exact a.unsubscribe id

end Desk

end Switchboard
