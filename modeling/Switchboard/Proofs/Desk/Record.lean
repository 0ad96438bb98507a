import Switchboard.Proofs.Desk.Audience

/-!
# The log of a presenter

What a presenter logs of the acts of a desk. Apart from the events in it, the log does not depend on
who is subscribed.
-/

namespace Switchboard

def Record.isEvent : Record → Bool
  | .event _ => true
  | _ => false

theorem Record.isEvent_iff {r : Record} : r.isEvent = true ↔ ∃ e, r = .event e := by
  cases r <;> simp [isEvent]

theorem Cue.isEvent_record (c : Cue) : c.record.isEvent = c.event?.isSome := by
  cases c with
  | present session => cases session <;> rfl
  | _ => rfl

/-- Whether a record is no picture of the desk: it brings an event or a download, or says that the
connection is there or gone. -/
def Record.isNote : Record → Bool
  | .connected | .disconnected | .event _ | .download .. => true
  | _ => false

theorem filterMap_eq_nil_of_notes {α : Type} {f : Record → Option α} {log : List Record}
    (passes : ∀ r, r.isNote = false → f r = none) (pictures : log.filter Record.isNote = []) :
    log.filterMap f = [] := by
  rw [List.filterMap_eq_nil_iff]
  intro r mem
  exact passes r (by simpa using List.filter_eq_nil_iff.mp pictures r mem)

theorem Cue.record_present (s : Option Session) :
    ∃ retained, (Cue.present s).record = .present (s.map (·.id)) retained := by
  cases s <;> exact ⟨_, rfl⟩

/-- Two logs with the same records besides events read the same to who passes over events. -/
theorem filterMap_eq_of_plain {α : Type} {f : Record → Option α} {log log' : List Record}
    (passes : ∀ e, f (.event e) = none)
    (same : log.filter (!·.isEvent) = log'.filter (!·.isEvent)) :
    log.filterMap f = log'.filterMap f := by
  have plain : ∀ l : List Record, (l.filter (!·.isEvent)).filterMap f = l.filterMap f := by
    intro l
    rw [List.filterMap_filter]
    apply List.filterMap_congr
    intro r _
    cases r <;> simp [Record.isEvent, passes]
  rw [← plain log, same, plain]

namespace Effect

/-- The records of the cues among some effects. -/
def records (es : List Effect) : List Record := (cues es).map Cue.record

theorem records_append (es more : List Effect) :
    records (es ++ more) = records es ++ records more := by
  rw [records, cues_append, List.map_append, records, records]

end Effect

namespace Act

def records (acts : List Act) : List Record := (acts.filterMap cue?).map Cue.record

@[simp]
theorem records_nil : records [] = [] := rfl

@[simp]
theorem records_append (acts more : List Act) :
    records (acts ++ more) = records acts ++ records more := by
  rw [records, List.filterMap_append, List.map_append, records, records]

@[simp]
theorem records_cue (c : Cue) (acts : List Act) :
    records (.cue c :: acts) = c.record :: records acts := rfl

@[simp]
theorem records_send (r : Wire.Request) (acts : List Act) :
    records (.send r :: acts) = records acts := rfl

@[simp]
theorem records_publish (origin : Origin) (e : Event) (acts : List Act) :
    records (.publish origin e :: acts) = records acts := rfl

@[simp]
theorem records_cues (cs : List Cue) : records (cs.map .cue) = cs.map Cue.record := by
  induction cs with
  | nil => rfl
  | cons c cs ih => simpa using ih

@[simp]
theorem records_ite (p : Prop) [Decidable p] (acts more : List Act) :
    records (if p then acts else more) = if p then records acts else records more :=
  apply_ite records p acts more

end Act

theorem records_relayAll (presenter : SubscriberId) (b : Bus) (acts : List Act) :
    (Effect.records (b.relayAll presenter acts).2).filter (!·.isEvent) =
      (Act.records acts).filter (!·.isEvent) := by
  have plain : (fun c : Cue => !c.record.isEvent) = (·.event?.isNone) := by
    funext c
    simp [c.isEvent_record]
  simp only [Effect.records, Act.records, List.filter_map, Function.comp_def, plain,
    plain_cues_relayAll]

namespace Desk

variable {d d' : Desk} {op : Operation} {acts : List Act} {host : HostId} {h : Host}

theorem Enacts.records {step : Step} (e : Enacts step d d' acts) :
    (Effect.records (step d).2).filter (!·.isEvent) = (Act.records acts).filter (!·.isEvent) := by
  rw [e.eq, records_relayAll]

theorem records_hostActs (found : d.roster.host? host = some h) (cue : Host → Cue) :
    Act.records (d.hostActs cue host) = [(cue h).record] := by
  simp [hostActs, found]

theorem filterMap_records_hostActs {α : Type} {f : Record → Option α} {cue : Host → Cue}
    (off : ∀ h, f (cue h).record = none) (d : Desk) (host : HostId) :
    (Act.records (d.hostActs cue host)).filterMap f = [] := by
  cases found : d.roster.host? host <;> simp [hostActs, found, off]

@[simp]
theorem records_endActs (host : HostId) (ts : List TerminalId) :
    Act.records (ts.flatMap (endActs host)) = [] := by
  induction ts with
  | nil => rfl
  | cons t ts ih => simp [endActs, ih]

@[simp]
theorem records_closeActs (d : Desk) (origin : Origin) (host : HostId) (t : TerminalId) :
    Act.records (d.closeActs origin host t) = Act.records (d.hostActs .slotsChanged host) := by
  cases origin <;> simp [closeActs]

theorem records_refreshActs (d : Desk) (origin : Origin) :
    Act.records (d.refreshActs origin) =
      if d.view.changes d.wanted? then d.refreshCues.map Cue.record else [] := by
  unfold refreshActs
  split <;> simp

/-! ### Pictures of the desk -/

@[simp]
theorem notes_slots (d : Desk) (host : HostId) :
    (Act.records (d.hostActs .slotsChanged host)).filter Record.isNote = [] := by
  cases found : d.roster.host? host <;> simp [hostActs, found, Cue.record, Record.isNote]

@[simp]
theorem notes_added (d : Desk) (host : HostId) :
    (Act.records (d.hostActs .hostAdded host)).filter Record.isNote = [] := by
  cases found : d.roster.host? host <;> simp [hostActs, found, Cue.record, Record.isNote]

@[simp]
theorem notes_refreshActs (d : Desk) (origin : Origin) :
    (Act.records (d.refreshActs origin)).filter Record.isNote = [] := by
  rw [records_refreshActs]
  split
  · obtain ⟨retained, shown⟩ := Cue.record_present d.wanted?
    rw [refreshCues, List.map_cons, shown, List.filter_cons]
    simp [Record.isNote, Cue.record, List.filter_map, Function.comp_def]
  · rfl

@[simp]
theorem notes_listingActs (d : Desk) (t : TerminalId) :
    (Act.records (d.listingActs t)).filter Record.isNote = [] := by
  unfold listingActs
  repeat' split
  all_goals rfl

/-- The records of a move are pictures of the desk, unless the move opens a file. -/
theorem Move.notes (m : Move op d d' acts) :
    (Act.records acts).filter Record.isNote = [] ∨
      ∃ t index path, op = .intent (.openEntry t index) ∧
        (d.sessions.get? t).bind (·.navigate? index) = some (.download path) ∧
        acts = [.cue (.download t path)] := by
  cases m with
  | @fileOpened _ t index path leads => exact Or.inr ⟨t, index, path, rfl, leads, rfl⟩
  | ignored | terminalRefused | unheldClosed | typed | resized | directoryOpened | directoryAsked
  | noticed => exact Or.inl rfl
  | hostConnected | hostDisconnected | terminalClosed | hostSelected | terminalRequested
  | slotSelected => exact Or.inl (by simp [Cue.record, Record.isNote])
  | @terminalAdded _ _ _ _ _ _ selected =>
    refine Or.inl ?_
    cases selected <;> simp
  | terminalOutput =>
    refine Or.inl ?_
    split <;> rfl
  | @directoryListing _ t _ _ sessions =>
    refine Or.inl ?_
    cases sessions.get? t <;> rfl
  | slotToggled =>
    have files : ∀ t visible, (Cue.fileBrowser t visible).record.isNote = false := fun _ _ => rfl
    refine Or.inl ?_
    split <;> simp [files]

/-- Asking for a terminal opens no file. -/
theorem Asks.notes {greeted : Option (HostId × Roster)} (a : Asks greeted d d' acts) :
    (Act.records acts).filter Record.isNote = [] := by
  rcases asks_cases a with ⟨-, rfl⟩ | ⟨host, slot, roster, -, -, rfl⟩ <;> simp

end Desk

end Switchboard
