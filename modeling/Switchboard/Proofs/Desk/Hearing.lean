import Switchboard.Proofs.Desk.Record

/-!
# What the presenter hears

An operation publishes on behalf of whom it comes from (`Move.speaksFor`), so the presenter hears of
the reports alone, while the other subscribers hear everything. A `Post` is told only that an event
is published: whose it is follows from a publisher that is set while an intent is applied, and what
the presenter hears lies in an inbox until it is passed on. `Post.takeAll_eq`: a desk does as a post
would.
-/

namespace Switchboard

variable {presenter : SubscriberId} {acts : List Act} {op : Operation} {origin : Origin}
  {speaker : Option Origin}

def Record.event? : Record → Option Event
  | .event e => some e
  | _ => none

theorem Cue.event?_record (c : Cue) : c.record.event? = c.event? := by
  cases c with
  | present session => cases session <;> rfl
  | _ => rfl

theorem Effect.events_records (es : List Effect) :
    (records es).filterMap Record.event? = (cues es).filterMap Cue.event? := by
  simp only [records, List.filterMap_map, Function.comp_def, Cue.event?_record]

/-- On whose behalf an operation publishes. A command that stands for no intent publishes nothing. -/
def Operation.origin? : Operation → Option Origin
  | .report _ => some .server
  | .intent _ => some .presenter
  | .command _ => none

theorem speaksFor_if (p : Prop) [Decidable p] (speaks : ∀ act ∈ acts, act.SpeaksFor speaker) :
    ∀ act ∈ (if p then acts else []), act.SpeaksFor speaker := by
  split
  · exact speaks
  · exact List.forall_mem_nil _

namespace Desk

variable {d d' d₁ : Desk} {turns : List Turn}

/-! ### Whose the events are -/

theorem Closes.origin? {host : HostId} {slot : SlotId} (why : d.Closes host slot op origin) :
    op.origin? = some origin := by
  cases op with
  | report r => cases r <;> cases origin <;> first | rfl | exact why.elim
  | intent i => cases i <;> cases origin <;> first | rfl | exact why.elim
  | command c => exact why.elim

/-- An operation publishes on behalf of whom it comes from. -/
theorem Move.speaksFor (m : Move op d d' acts) : ∀ act ∈ acts, act.SpeaksFor op.origin? := by
  have slots : ∀ (d : Desk) (host : HostId) (op : Operation),
      ∀ act ∈ d.hostActs .slotsChanged host, act.SpeaksFor op.origin? :=
    fun d host _ => speaksFor_hostActs (fun _ => rfl) d host
  have one : ∀ {act : Act}, act.SpeaksFor op.origin? → ∀ a ∈ [act], a.SpeaksFor op.origin? :=
    fun speaks => List.forall_mem_singleton.mpr speaks
  cases m with
  | ignored | unheldClosed => exact List.forall_mem_nil _
  | terminalRefused | typed | resized | directoryOpened | directoryAsked => exact one trivial
  | fileOpened | noticed => exact one rfl
  | hostConnected =>
    exact List.forall_mem_append.mpr
      ⟨speaksFor_hostActs (fun _ => rfl) _ _, speaksFor_if _ (one rfl)⟩
  | hostDisconnected =>
    simp only [List.forall_mem_append]
    exact ⟨⟨⟨speaksFor_refreshActs _ _, speaksFor_endActs _ _⟩, one rfl⟩, speaksFor_if _ (one rfl)⟩
  | terminalAdded =>
    simp only [List.forall_mem_append]
    exact ⟨⟨⟨one rfl, slots _ _ _⟩, speaksFor_if _ (one rfl)⟩,
      speaksFor_if _ (speaksFor_refreshActs _ _)⟩
  | terminalOutput => exact speaksFor_if _ (one rfl)
  | terminalClosed why =>
    rw [why.origin?]
    exact List.forall_mem_append.mpr ⟨speaksFor_refreshActs _ _, speaksFor_closeActs _ _ _ _⟩
  | directoryListing =>
    intro act mem
    obtain ⟨s, _, rfl⟩ := Option.map_eq_some_iff.mp (Option.mem_toList.mp mem)
    rfl
  | hostSelected =>
    exact List.forall_mem_append.mpr ⟨speaksFor_if _ (one rfl), speaksFor_refreshActs _ _⟩
  | terminalRequested => exact List.forall_mem_cons.mpr ⟨trivial, slots _ _ _⟩
  | slotSelected =>
    simp only [List.forall_mem_append]
    exact ⟨⟨slots _ _ _, one rfl⟩, speaksFor_refreshActs _ _⟩
  | slotToggled =>
    simp only [List.forall_mem_append]
    exact ⟨⟨slots _ _ _, one rfl⟩, speaksFor_if _ (speaksFor_listingActs _ _)⟩

theorem Asks.speaksFor {greeted : Option (HostId × Roster)} (a : Asks greeted d d' acts) :
    ∀ act ∈ acts, act.SpeaksFor speaker := by
  rcases asks_cases a with ⟨-, rfl⟩ | ⟨host, slot, roster, -, -, rfl⟩
  · exact List.forall_mem_nil _
  · exact List.forall_mem_cons.mpr ⟨trivial, speaksFor_hostActs (fun _ => rfl) _ _⟩

theorem handle_speaksFor (op : Operation) (d : Desk) :
    ∃ d' acts, Enacts (handle op) d d' acts ∧
      ∀ act ∈ acts, act.SpeaksFor (d.meaning op).origin? := by
  obtain ⟨d₁, acts, d₂, more, m, asks, e⟩ := handle_moves op d
  exact ⟨d₂, acts ++ more, e, List.forall_mem_append.mpr ⟨m.speaksFor, asks.speaksFor⟩⟩

end Desk

/-! ### What is published -/

/-- An act as it comes to a subscriber that hears every event. -/
def Act.overheard (observer : SubscriberId) : Act → Effect
  | .cue c => .cue c
  | .send r => .send r
  | .publish _ e => .deliver (observer, e)

/-- A bus with one subscriber, who stays. -/
def Bus.watched (observer : SubscriberId) (received : List Event) : Bus where
  subscriptions := [{ id := observer, handler := .stay, received }]

theorem Bus.publish_watched {observer : SubscriberId} {sender : Option SubscriberId}
    (apart : sender ≠ some observer) (received : List Event) (e : Event) :
    (watched observer received).publish sender e =
      ([(observer, e)], watched observer (e :: received)) := by
  simp [watched, publish, audience, deliver?, Handler.stay, apart]

theorem Bus.relayAll_watched {observer : SubscriberId} (apart : observer ≠ presenter)
    (received : List Event) (acts : List Act) :
    ((watched observer received).relayAll presenter acts).2 = acts.map (·.overheard observer) := by
  induction acts generalizing received with
  | nil => rfl
  | cons act acts ih =>
    cases act with
    | cue c => exact congrArg (.cue c :: ·) (ih received)
    | send r => exact congrArg (.send r :: ·) (ih received)
    | publish origin e =>
      simp only [relayAll, relay, publish_watched (Desk.sender_ne apart origin), ih]
      simp [apart, Act.overheard]

theorem deliveries_overheard (observer : SubscriberId) (acts : List Act) :
    (Effect.deliveries (acts.map (·.overheard observer))).map Prod.snd =
      acts.filterMap Act.event? := by
  rw [Effect.deliveries, List.filterMap_map, List.map_filterMap]
  congr 1
  funext act
  cases act <;> rfl

namespace Desk

variable {d d' d₁ : Desk} {turns : List Turn}

def observer (d : Desk) : SubscriberId := ⟨d.presenter.number + 1⟩

theorem observer_ne (d : Desk) : d.observer ≠ d.presenter :=
  fun same => Nat.succ_ne_self _ (congrArg SubscriberId.number same)

/-- The effects of an operation on a desk to which only an observer is subscribed. It hears what is
published, on whoever's behalf. -/
def overheard (d : Desk) (op : Operation) : List Effect :=
  (handle op { d with bus := .watched d.observer [] }).2

/-- The events that an operation publishes. -/
def published (d : Desk) (op : Operation) : List Event :=
  (Effect.deliveries (d.overheard op)).map Prod.snd

/-- The events that an operation publishes if it is a report. -/
def reported (d : Desk) : Operation → List Event
  | .report r => d.published (.report r)
  | .intent _ | .command _ => []

theorem Enacts.overheard (e : Enacts (handle op) d d' acts) :
    d.overheard op = acts.map (·.overheard d.observer) := by
  rw [Desk.overheard, e.result, Bus.relayAll_watched d.observer_ne]

theorem Enacts.published (e : Enacts (handle op) d d' acts) :
    d.published op = acts.filterMap Act.event? := by
  rw [Desk.published, e.overheard, deliveries_overheard]

/-! ### What the presenter hears of it -/

theorem contains_handle (a : d.bus.Attends d.presenter) (op : Operation) :
    (handle op d).1.bus.contains d.presenter = d.bus.contains d.presenter := by
  obtain ⟨d', acts, e, -⟩ := handle_speaksFor op d
  rw [e.eq]
  exact a.contains_relayAll acts

theorem unheard_of_speaksFor {step : Step} (e : Enacts step d d' acts)
    (speaks : ∀ act ∈ acts, act.SpeaksFor speaker) (other : speaker ≠ some .server) :
    (Effect.cues (step d).2).filterMap Cue.event? = [] := by
  rw [e.eq, cues_of_presenter _ _ speaks other, List.filterMap_eq_nil_iff]
  exact plain_of_speaksFor speaks

theorem heard_handle (a : d.bus.Attends d.presenter) (here : d.bus.contains d.presenter)
    (op : Operation) :
    (Effect.records (handle op d).2).filterMap Record.event? = d.reported op := by
  obtain ⟨d', acts, e, speaks⟩ := handle_speaksFor op d
  rw [Effect.events_records]
  cases op with
  | report r =>
    rw [e.eq, event_cues_of_server a speaks, if_pos here]
    exact e.published.symm
  | intent i => exact unheard_of_speaksFor e speaks (by simp [meaning, Operation.origin?])
  | command c =>
    have other : (d.meaning (.command c)).origin? ≠ some .server := by
      simp only [meaning]
      split <;> simp [Operation.origin?]
    exact unheard_of_speaksFor e speaks other

theorem heard_takeAll (a : d.bus.Attends d.presenter) (here : d.bus.contains d.presenter)
    (stays : ∀ id, .enrolment (.unsubscribe id) ∈ turns → id ≠ d.presenter) :
    (Effect.records (d.takeAll turns).2).filterMap Record.event? =
      (d.done turns).flatMap fun x => x.1.reported x.2 := by
  induction turns generalizing d with
  | nil => rfl
  | cons turn turns ih =>
    have stays' := fun id mem => stays id (List.mem_cons_of_mem _ mem)
    cases turn with
    | operation op =>
      have same := presenter_handle op d
      rw [takeAll_operation, Effect.records_append, List.filterMap_append, heard_handle a here, done,
        List.flatMap_cons]
      refine congrArg (_ ++ ·) (ih (attends_handle a op) ?_ (same ▸ stays'))
      rw [same, contains_handle a, here]
    | enrolment e =>
      rw [takeAll_enrolment, done]
      cases e with
      | subscribe handler =>
        refine ih (a.subscribe handler) ?_ stays'
        rw [Bus.contains_iff] at here ⊢
        exact Bus.ids_subscribe d.bus handler ▸ List.mem_append_left _ here
      | unsubscribe id =>
        have apart : d.presenter ≠ id := (stays id List.mem_cons_self).symm
        refine ih (a.unsubscribe id) ?_ stays'
        rw [Bus.contains_iff] at here ⊢
        show d.presenter ∈ (d.bus.unsubscribe id).ids
        rw [Bus.ids_unsubscribe_eq]
        exact List.mem_filter.mpr ⟨here, decide_eq_true apart⟩

/-! ### What the others hear -/

variable {id : SubscriberId} {log all : List Event}

theorem listens_handle (l : d.bus.Listens id log all) (apart : id ≠ d.presenter) (op : Operation) :
    (handle op d).1.bus.Listens id (log ++ heardBy id (handle op d).2) (all ++ d.published op) := by
  obtain ⟨d', acts, e, -⟩ := handle_speaksFor op d
  rw [e.published, e.eq]
  exact listens_relayAll l apart acts

theorem listens_takeAll (l : d.bus.Listens id log all) (apart : id ≠ d.presenter)
    (turns : List Turn) :
    (d.takeAll turns).1.bus.Listens id (log ++ heardBy id (d.takeAll turns).2)
      (all ++ (d.done turns).flatMap fun x => x.1.published x.2) := by
  induction turns generalizing d log all with
  | nil => simpa [Desk.takeAll, done, heardBy, receivedBy, Effect.deliveries] using l
  | cons turn turns ih =>
    cases turn with
    | operation op =>
      rw [takeAll_operation, done, List.flatMap_cons, heardBy_append, ← List.append_assoc,
        ← List.append_assoc]
      exact ih (listens_handle l apart op) (presenter_handle op d ▸ apart)
    | enrolment e =>
      rw [takeAll_enrolment, done]
      cases e with
      | subscribe handler => exact ih (l.subscribe handler) apart
      | unsubscribe other => exact ih (l.unsubscribe other) apart

end Desk

/-! ### A post -/

/-- A bus with who publishes at the moment, if it is a subscriber, and with what the presenter has
received and not been shown. -/
structure Post where
  bus : Bus
  publisher : Option SubscriberId := none
  inbox : List Event := []

namespace Post

/-- Publishes an event on behalf of the publisher, and then shows the presenter what it received. -/
def publish (presenter : SubscriberId) (p : Post) (e : Event) : Post × List Effect :=
  let (deliveries, bus) := p.bus.publish p.publisher e
  let inbox := p.inbox ++ receivedBy presenter deliveries
  ({ p with bus, inbox := [] },
    (deliveries.filter (·.1 ≠ presenter)).map .deliver ++ inbox.map fun e => .cue (.event e))

/-- Does what was overheard, a delivery to the observer being an event to publish. -/
def relay (presenter : SubscriberId) (p : Post) : Effect → Post × List Effect
  | .cue c => (p, [.cue c])
  | .send r => (p, [.send r])
  | .deliver delivery => p.publish presenter delivery.2

def relayAll (presenter : SubscriberId) (p : Post) : List Effect → Post × List Effect
  | [] => (p, [])
  | effect :: effects =>
    let (p, done) := p.relay presenter effect
    let (p, more) := p.relayAll presenter effects
    (p, done ++ more)

/-- While an intent is applied, the presenter publishes; afterwards whoever published before. -/
def handle (d : Desk) (p : Post) (op : Operation) : Post × List Effect :=
  match d.meaning op with
  | .intent _ =>
    let (after, effects) :=
      { p with publisher := some d.presenter }.relayAll d.presenter (d.overheard op)
    ({ after with publisher := p.publisher }, effects)
  | .report _ | .command _ => p.relayAll d.presenter (d.overheard op)

def enrol (p : Post) : Desk.Enrolment → Post
  | .subscribe handler => { p with bus := (p.bus.subscribe handler).2 }
  | .unsubscribe id => { p with bus := p.bus.unsubscribe id }

def takeAll (d : Desk) (p : Post) : List Desk.Turn → Post × List Effect
  | [] => (p, [])
  | .operation op :: turns =>
    let (p, effects) := p.handle d op
    let (p, more) := p.takeAll (Desk.handle op d).1 turns
    (p, effects ++ more)
  | .enrolment e :: turns => (p.enrol e).takeAll (d.enrol e) turns

variable {observer : SubscriberId} {publisher : Option SubscriberId} {d : Desk}

theorem shown_eq (presenter : SubscriberId) (ds : List Delivery) :
    (receivedBy presenter ds).map (fun e => Effect.cue (.event e)) =
      (ds.filter (·.1 = presenter)).map fun d => .cue (.event d.2) := by
  induction ds with
  | nil => rfl
  | cons d ds ih => by_cases same : d.1 = presenter <;> simpa [receivedBy, same] using ih

/-- What the presenter receives is shown to it at once. -/
theorem publish_eq (presenter : SubscriberId) (b : Bus) (origin : Origin) (e : Event) :
    let relayed := b.relay presenter (.publish origin e)
    ({ bus := b, publisher := origin.sender presenter } : Post).publish presenter e =
      ({ bus := relayed.1, publisher := origin.sender presenter }, relayed.2) := by
  intro relayed
  simp only [publish, List.nil_append, shown_eq]
  rfl

theorem relayAll_eq (own : ∀ origin, speaker = some origin → origin.sender presenter = publisher)
    (speaks : ∀ act ∈ acts, act.SpeaksFor speaker) (b : Bus) :
    let relayed := b.relayAll presenter acts
    ({ bus := b, publisher } : Post).relayAll presenter (acts.map (·.overheard observer)) =
      ({ bus := relayed.1, publisher }, relayed.2) := by
  induction acts generalizing b with
  | nil => rfl
  | cons act acts ih =>
    obtain ⟨first, speaks'⟩ := List.forall_mem_cons.mp speaks
    have one : ({ bus := b, publisher } : Post).relay presenter (act.overheard observer) =
        ({ bus := (b.relay presenter act).1, publisher }, (b.relay presenter act).2) := by
      cases act with
      | cue | send => rfl
      | publish origin e => exact own origin first ▸ publish_eq presenter b origin e
    simp only [List.map_cons, relayAll, one, ih speaks']
    rfl

theorem handle_eq (op : Operation) (d : Desk) :
    ({ bus := d.bus } : Post).handle d op =
      ({ bus := (Desk.handle op d).1.bus }, (Desk.handle op d).2) := by
  obtain ⟨d', acts, e, speaks⟩ := d.handle_speaksFor op
  rw [handle, e.overheard, e.eq]
  split
  · rename_i i same
    rw [same] at speaks
    have own : ∀ origin, some Origin.presenter = some origin →
        origin.sender d.presenter = some d.presenter := by
      rintro origin ⟨⟩
      rfl
    simp only [relayAll_eq own speaks]
  · rename_i r same
    rw [same] at speaks
    refine relayAll_eq (fun origin theirs => ?_) speaks d.bus
    obtain rfl := Option.some.inj theirs
    rfl
  · rename_i c same
    rw [same] at speaks
    exact relayAll_eq (fun origin theirs => by cases theirs) speaks d.bus

/-- A post does what a desk does, and after each operation nobody publishes and nothing is left to
show. -/
theorem takeAll_eq (d : Desk) (turns : List Desk.Turn) :
    ({ bus := d.bus } : Post).takeAll d turns =
      ({ bus := (d.takeAll turns).1.bus }, (d.takeAll turns).2) := by
  induction turns generalizing d with
  | nil => rfl
  | cons turn turns ih =>
    cases turn with
    | operation op => simp only [takeAll, handle_eq, ih, Desk.takeAll_operation]
    | enrolment e =>
      rw [Desk.takeAll_enrolment, ← ih]
      cases e <;> rfl

end Post

namespace Desk

/-- Whoever else subscribes and leaves, the presenter hears the events of the reports, each once and
in order, and none of what it caused itself, while another subscriber hears every event from when it
joined for as long as it is subscribed. After each operation nobody is left publishing, and the inbox
of the presenter is empty. -/
theorem presenter_hears_reports (settings : Settings) (turns : List Turn)
    (stays : ∀ id, .enrolment (.unsubscribe id) ∈ turns → id ≠ (start settings).1.presenter) :
    let first := (start settings).1
    let run := first.takeAll turns
    let log := Effect.records ((start settings).2 ++ run.2)
    (log.filterMap Record.event? = (first.done turns).flatMap fun x => x.1.reported x.2) ∧
    (∀ before handler after, turns = before ++ .enrolment (.subscribe handler) :: after →
      let joined := (first.takeAll before).1.subscribe handler
      run.1.bus.contains joined.1 →
        heardBy joined.1 (joined.2.takeAll after).2 =
          (joined.2.done after).flatMap fun x => x.1.published x.2) ∧
    ({ bus := first.bus } : Post).takeAll first turns =
      ({ bus := run.1.bus, publisher := none, inbox := [] }, run.2) := by
  intro first run log
  have a := attends_start settings
  refine ⟨?_, ?_, Post.takeAll_eq first turns⟩
  · rw [show log = _ from Effect.records_append _ _, List.filterMap_append]
    exact heard_takeAll a rfl stays
  · intro before handler after split joined here
    have last : run.1 = (joined.2.takeAll after).1 := by
      simp only [run, split, takeAll_append]
      rfl
    have met := attends_history settings before
    have apart : joined.1 ≠ joined.2.presenter := fun same =>
      absurd met.old (same ▸ Nat.lt_irrefl _)
    have l := listens_takeAll (met.numbered.listens handler) apart after
    exact l.whole (last ▸ here)

theorem presenter_hears_reports_visitor :
    let connect (n : UInt32) : Turn := .operation (.report (.hostConnected ⟨⟨n⟩, "", "", ""⟩))
    let before : List Turn :=
      [.enrolment (.subscribe .stay), connect 1, .enrolment (.unsubscribe ⟨1⟩)]
    let after : List Turn := [connect 2, .operation (.intent (.selectHost ⟨2⟩))]
    let turns := before ++ .enrolment (.subscribe .stay) :: after
    let first := (start {}).1
    let run := first.takeAll turns
    let visitor := (first.takeAll before).1.subscribe .stay
    (∀ id, .enrolment (.unsubscribe id) ∈ turns → id ≠ first.presenter) ∧
      (Effect.records ((start {}).2 ++ run.2)).filterMap Record.event? =
        [.hostSelected (some ⟨1⟩)] ∧
      run.1.bus.contains visitor.1 = true ∧
      heardBy visitor.1 (visitor.2.takeAll after).2 = [.hostSelected (some ⟨2⟩)] := by
  intro connect before after turns first run visitor
  have stays : ∀ id, .enrolment (.unsubscribe id) ∈ turns → id ≠ first.presenter := by
    intro id mem
    obtain rfl : id = ⟨1⟩ := by simpa [turns, before, after, connect] using mem
    decide
  have here : run.1.bus.contains visitor.1 = true := by decide +kernel
  obtain ⟨heard, others, -⟩ := presenter_hears_reports {} turns stays
  refine ⟨stays, heard.trans ?_, here, (others before .stay after rfl here).trans ?_⟩
  · decide +kernel
  · decide +kernel

end Desk

end Switchboard
