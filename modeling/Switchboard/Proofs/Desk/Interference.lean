import Switchboard.Proofs.Desk.History
import Switchboard.Proofs.Desk.Masking
import Switchboard.Proofs.Desk.Output
import Switchboard.Proofs.Desk.Record

/-!
# Output steers nothing

What a terminal prints is kept and shown, and that is all. Two runs that differ in output only come
to the same, apart from that output: `takeAll_masked` says so of the masked desk, and
`Unpresented.shows?_ne` that only what is presented gets into the log.
-/

namespace Switchboard

variable {hidden : TerminalId → Bool}

/-- A record as a masked desk leaves it. -/
def Record.masked? (hidden : TerminalId → Bool) : Record → Option Record
  | .output t bs => if hidden t then none else some (.output t bs)
  | .present (some t) bs => some (.present (some t) (if hidden t then [] else bs))
  | r => some r

/-- A record without output: that of output is deleted, and a terminal is presented blank. -/
def Record.blank? : Record → Option Record
  | .output .. => none
  | .present (some t) _ => some (.present (some t) [])
  | r => some r

theorem Record.masked?_all : masked? (fun _ => true) = blank? := by
  funext r
  cases r with
  | present t bs => cases t <;> rfl
  | _ => rfl

/-- The terminal whose output a record has. -/
def Record.shows? : Record → Option TerminalId
  | .output t _ => some t
  | .present t _ => t
  | _ => none

theorem Record.onScreen_of_shows? {r : Record} {t : TerminalId} (shows : r.shows? = some t) :
    r.onScreen = true := by
  cases r <;> first | rfl | cases shows

theorem Record.masked?_eq_self {r : Record} (shown : ∀ t, r.shows? = some t → hidden t = false) :
    r.masked? hidden = some r := by
  cases r with
  | output t bs => simp [masked?, shown t rfl]
  | present chosen bs =>
    cases chosen with
    | none => rfl
    | some t => simp [masked?, shown t rfl]
  | _ => rfl

theorem Session.retained_masked (s : Session) :
    (s.masked hidden).scrollback.retained = if hidden s.id then [] else s.scrollback.retained := by
  unfold masked
  split <;> rfl

theorem Cue.record_masked? (c : Cue) :
    (c.masked? hidden).map record = c.record.masked? hidden := by
  cases c with
  | present s => cases s <;> simp [masked?, record, Record.masked?, Session.retained_masked]
  | output t bs =>
    simp only [masked?, record, Record.masked?]
    split <;> rfl
  | entries s => simp [masked?, record, Record.masked?]
  | _ => rfl

namespace Effect

/-- Masking passes by what is read of effects other than cues. -/
theorem filterMap_masked {α : Type} {f : Effect → Option α} (off : ∀ c, f (.cue c) = none)
    (es : List Effect) : (masked hidden es).filterMap f = es.filterMap f := by
  rw [masked, List.filterMap_filterMap]
  refine List.filterMap_congr fun e _ => ?_
  cases e with
  | cue c => cases found : c.masked? hidden <;> simp [masked?, found, off]
  | send | deliver => rfl

theorem requests_masked (es : List Effect) : requests (masked hidden es) = requests es :=
  filterMap_masked (fun _ => rfl) es

theorem deliveries_masked (es : List Effect) : deliveries (masked hidden es) = deliveries es :=
  filterMap_masked (fun _ => rfl) es

def record? : Effect → Option Record
  | .cue c => some c.record
  | _ => none

theorem records_eq (es : List Effect) : records es = es.filterMap record? := by
  rw [records, cues, List.map_filterMap]
  refine List.filterMap_congr fun e _ => ?_
  cases e <;> rfl

theorem records_masked (es : List Effect) :
    records (masked hidden es) = (records es).filterMap (Record.masked? hidden) := by
  rw [records_eq, records_eq, masked, List.filterMap_filterMap, List.filterMap_filterMap]
  refine List.filterMap_congr fun e _ => ?_
  cases e with
  | cue c =>
    rw [show (record? (.cue c)).bind (Record.masked? hidden) = c.record.masked? hidden from rfl,
      ← c.record_masked?]
    cases found : c.masked? hidden <;> simp [masked?, found, record?]
  | send | deliver => rfl

end Effect

namespace Desk

/-! ### Runs without output -/

/-- The terminal of which a turn reports output. -/
def Turn.speaker? : Turn → Option TerminalId
  | .operation op => op.speaker?
  | .enrolment _ => none

/-- Turns without the output of hidden terminals. -/
def unspoken (hidden : TerminalId → Bool) (turns : List Turn) : List Turn :=
  turns.filter fun turn => !turn.speaker?.any hidden

variable {d d' : Desk} {op : Operation} {acts : List Act} {turns turns' : List Turn}
  {t : TerminalId}

/-- A run on a masked desk without the output of hidden terminals is the run, masked. -/
theorem takeAll_masked (d : Desk) (turns : List Turn) :
    (d.masked hidden).takeAll (unspoken hidden turns) =
      ((d.takeAll turns).1.masked hidden, Effect.masked hidden (d.takeAll turns).2) := by
  induction turns generalizing d with
  | nil => rfl
  | cons turn turns ih =>
    cases turn with
    | enrolment e =>
      have same : (d.masked hidden).enrol e = (d.enrol e).masked hidden := by
        cases e <;> rfl
      have kept : unspoken hidden (.enrolment e :: turns) = .enrolment e :: unspoken hidden turns :=
        rfl
      rw [kept, takeAll_enrolment, takeAll_enrolment, same, ih]
    | operation op =>
      rw [takeAll_operation d, Effect.masked_append]
      cases spoken : op.speaker?.any hidden with
      | true =>
        obtain ⟨t, speaks, unshown⟩ := (Option.any_eq_true _ _).mp spoken
        have gone : unspoken hidden (.operation op :: turns) = unspoken hidden turns :=
          List.filter_cons_of_neg (by simp [Turn.speaker?, spoken])
        obtain ⟨same, silent⟩ := masked_handle speaks unshown d
        rw [gone, silent, ← same, ih, List.nil_append]
      | false =>
        have shown : ∀ t, op.speaker? = some t → hidden t = false := by
          intro t speaks
          simpa [speaks] using spoken
        have kept : unspoken hidden (.operation op :: turns) =
            .operation op :: unspoken hidden turns :=
          List.filter_cons_of_pos (by simp [Turn.speaker?, spoken])
        rw [kept, takeAll_operation, blind_handle shown d, ih]

/-! ### What is presented -/

theorem screens_refreshActs (d : Desk) (origin : Origin) :
    ∀ r ∈ (d.refreshActs origin).filterMap Act.shown?,
      ∃ bs, r = .present d.refreshed.presented bs := by
  rw [shown_refreshActs]
  intro r mem
  split at mem
  · obtain ⟨bs, same⟩ := Cue.record_present d.wanted?
    exact ⟨bs, (List.mem_singleton.mp mem).trans same⟩
  · cases mem

/-- What gets on the screen is the terminal that is presented after a move, or output of the one
presented before it. -/
theorem Move.screens (m : Move op d d' acts) : ∀ r ∈ acts.filterMap Act.shown?,
    (∃ bs, r = .present d'.presented bs) ∨ ∃ t bs, d.presented = some t ∧ r = .output t bs := by
  cases m with
  | ignored | terminalRefused | typed | directoryOpened | fileOpened | directoryAsked | noticed
  | unheldClosed | resized => exact nofun
  | hostConnected outcome grown =>
    rw [List.filterMap_append, filterMap_hostActs fun _ => rfl, shown_publish_if]
    exact nofun
  | terminalRequested outcome asked =>
    rw [List.filterMap_cons, filterMap_hostActs fun _ => rfl]
    exact nofun
  | @slotToggled _ d₁ _ _ t _ _ outcome flipped =>
    rw [List.filterMap_append, List.filterMap_append, filterMap_hostActs fun _ => rfl]
    split
    · rw [shown_listingActs]
      exact nofun
    · exact nofun
  | @directoryListing _ t path files sessions listed =>
    cases (sessions.get? t) <;> exact nofun
  | @terminalOutput _ t output live =>
    intro r mem
    split at mem
    · exact Or.inr ⟨t, output.bytes, ‹_›, List.mem_singleton.mp mem⟩
    · cases mem
  | @hostDisconnected _ d₁ host removed roster outcome left =>
    have removal : [Act.cue (.hostRemoved host)].filterMap Act.shown? = [] := rfl
    rw [List.filterMap_append, List.filterMap_append, List.filterMap_append, shown_endActs,
      shown_publish_if, removal, List.append_nil, List.append_nil, List.append_nil, foldl_forgotten]
    exact fun r mem => Or.inl (screens_refreshActs d₁ .server r mem)
  | @terminalClosed _ d₁ _ origin host _ closed _ why outcome left =>
    rw [List.filterMap_append, shown_closeActs, List.append_nil]
    exact fun r mem => Or.inl (screens_refreshActs d₁ origin r mem)
  | @hostSelected _ d₁ host roster outcome moved =>
    rw [List.filterMap_append, shown_publish_if, List.nil_append]
    exact fun r mem => Or.inl (screens_refreshActs d₁ .presenter r mem)
  | @slotSelected _ d₁ _ _ _ roster outcome moved =>
    rw [List.filterMap_append, List.filterMap_append, filterMap_hostActs fun _ => rfl]
    exact fun r mem => Or.inl (screens_refreshActs d₁ .presenter r mem)
  | @terminalAdded _ d₁ host t _ requested selected roster fresh outcome grown =>
    rw [List.filterMap_append, List.filterMap_append, List.filterMap_append, shown_publish_if,
      filterMap_hostActs fun _ => rfl]
    intro r mem
    cases selected with
    | true => exact Or.inl (screens_refreshActs d₁ .server r mem)
    | false => cases mem

theorem screens_handle {r : Record} (op : Operation) (d : Desk)
    (mem : r ∈ Effect.records (handle op d).2) (shows : r.shows? = some t) :
    d.presented = some t ∨ (handle op d).1.presented = some t := by
  obtain ⟨d₁, acts, d₂, more, m, asks, e⟩ := handle_moves op d
  have inside : r ∈ (acts ++ more).filterMap Act.shown? := by
    rw [← shown_relayAll d.presenter d.bus, ← Effect.records, ← congrArg Prod.snd e.eq]
    exact List.mem_filter.mpr ⟨mem, Record.onScreen_of_shows? shows⟩
  have still : more.filterMap Act.shown? = [] ∧ d₂.presented = d₁.presented := by
    rcases asks_cases asks with ⟨rfl, rfl⟩ | ⟨host, slot, roster, -, rfl, rfl⟩
    · exact ⟨rfl, rfl⟩
    · exact ⟨filterMap_hostActs (fun _ => rfl) _ _, rfl⟩
  rw [List.filterMap_append, still.1, List.append_nil] at inside
  rw [e.eq]
  rcases m.screens r inside with ⟨bs, rfl⟩ | ⟨u, bs, presented, rfl⟩
  · exact Or.inr (still.2.trans shows)
  · exact Or.inl (presented.trans shows)

/-- A terminal that is presented at no point of a run. -/
def Unpresented (d : Desk) (turns : List Turn) (t : TerminalId) : Prop :=
  ∀ early, early <+: turns → (d.takeAll early).1.presented ≠ some t

theorem unpresented_of_take
    (apart : ∀ k ≤ turns.length, (d.takeAll (turns.take k)).1.presented ≠ some t) :
    d.Unpresented turns t := by
  intro early before
  rw [List.prefix_iff_eq_take.mp before]
  exact apart early.length before.length_le

/-- What is not presented does not get into the log. -/
theorem Unpresented.shows?_ne {r : Record} (unpresented : d.Unpresented turns t)
    (mem : r ∈ Effect.records (d.takeAll turns).2) : r.shows? ≠ some t := by
  intro shows
  induction turns generalizing d with
  | nil => cases mem
  | cons turn turns ih =>
    have later : (take turn d).1.Unpresented turns t := fun early before =>
      unpresented (turn :: early) (List.cons_prefix_cons.mpr ⟨rfl, before⟩)
    cases turn with
    | enrolment e => exact ih later mem
    | operation op =>
      rw [takeAll_operation, Effect.records_append, List.mem_append] at mem
      rcases mem with now | after
      · rcases screens_handle op d now shows with before | since
        · exact unpresented [] List.nil_prefix before
        · exact later [] List.nil_prefix since
      · exact ih later after

theorem records_eq_masked {quiet : TerminalId → Bool}
    (unpresented : ∀ t, quiet t = true → d.Unpresented turns t) :
    Effect.records (Effect.masked quiet (d.takeAll turns).2) =
      Effect.records (d.takeAll turns).2 := by
  rw [Effect.records_masked]
  refine (List.filterMap_congr fun r mem => ?_).trans List.filterMap_some
  refine Record.masked?_eq_self fun t shows => ?_
  rw [Bool.eq_false_iff]
  exact fun silent => (unpresented t silent).shows?_ne mem shows

/-! ### Two runs -/

/-- Turns that come to the same without the output of hidden terminals lead a desk to the same,
masked. -/
theorem masked_takeAll_congr (d : Desk)
    (same : unspoken hidden turns = unspoken hidden turns') :
    (d.takeAll turns).1.masked hidden = (d.takeAll turns').1.masked hidden ∧
      Effect.masked hidden (d.takeAll turns).2 = Effect.masked hidden (d.takeAll turns').2 := by
  have run : (d.masked hidden).takeAll (unspoken hidden turns) = _ := takeAll_masked d turns
  rw [same, takeAll_masked d turns'] at run
  exact ⟨(congrArg Prod.fst run).symm, (congrArg Prod.snd run).symm⟩

/-- Masking leaves all there is on a desk but output. -/
theorem same_but_output (same : d.masked hidden = d'.masked hidden) :
    d.roster = d'.roster ∧ d.view = d'.view ∧ d.sizes = d'.sizes ∧ d.bus = d'.bus ∧
      d.sessions.live.map (fun s => (s.id, s.host, s.listing)) =
        d'.sessions.live.map (fun s => (s.id, s.host, s.listing)) := by
  have roster := congrArg Desk.roster same
  have view := congrArg Desk.view same
  have sizes := congrArg Desk.sizes same
  have bus := congrArg Desk.bus same
  have sessions := congrArg (fun d => d.sessions.live.map fun s => (s.id, s.host, s.listing)) same
  refine ⟨roster, view, sizes, bus, ?_⟩
  simpa [masked, Sessions.masked, Function.comp_def] using sessions

/-- Output steers nothing. Two runs of turns that come to the same once every report of output is
left out lead to the same hosts, view, sizes, subscribers and live terminals with their owners and
listings; the same requests are sent and the same events delivered; and the presenter's logs are
the same once output is deleted and what is presented is blanked. If the output differs only of
terminals that are never presented, the logs are the same as they are. -/
theorem output_steers_nothing (settings : Settings) (turns turns' : List Turn)
    (same : turns.filter (·.speaker?.isNone) = turns'.filter (·.speaker?.isNone)) :
    let d := (start settings).1
    let run := d.takeAll turns
    let run' := d.takeAll turns'
    (run.1.roster = run'.1.roster ∧ run.1.view = run'.1.view ∧ run.1.sizes = run'.1.sizes ∧
      run.1.bus = run'.1.bus ∧
      run.1.sessions.live.map (fun s => (s.id, s.host, s.listing)) =
        run'.1.sessions.live.map (fun s => (s.id, s.host, s.listing))) ∧
    Effect.requests run.2 = Effect.requests run'.2 ∧
    Effect.deliveries run.2 = Effect.deliveries run'.2 ∧
    (Effect.records run.2).filterMap Record.blank? =
      (Effect.records run'.2).filterMap Record.blank? ∧
    ∀ quiet : TerminalId → Bool,
      (∀ t, quiet t → d.Unpresented turns t ∧ d.Unpresented turns' t) →
      unspoken quiet turns = unspoken quiet turns' →
      Effect.records run.2 = Effect.records run'.2 := by
  intro d run run'
  have all : ∀ turns, unspoken (fun _ => true) turns = turns.filter (·.speaker?.isNone) := by
    intro turns
    refine List.filter_congr fun turn _ => ?_
    cases turn.speaker? <;> rfl
  have spoken : unspoken (fun _ => true) turns = unspoken (fun _ => true) turns' := by
    rw [all, all, same]
  obtain ⟨desk, effects⟩ := masked_takeAll_congr d spoken
  refine ⟨same_but_output desk, ?_, ?_, ?_, ?_⟩
  · rw [← Effect.requests_masked run.2, effects, Effect.requests_masked]
  · rw [← Effect.deliveries_masked run.2, effects, Effect.deliveries_masked]
  · rw [← Record.masked?_all, ← Effect.records_masked, effects, Effect.records_masked]
  · intro quiet unpresented differ
    have effects' := (masked_takeAll_congr d differ).2
    rw [← records_eq_masked fun t silent => (unpresented t silent).1, effects',
      records_eq_masked fun t silent => (unpresented t silent).2]

theorem output_steers_nothing_background :
    let opened : List Turn :=
      [.operation (.report (.hostConnected ⟨⟨1⟩, "", "", ""⟩)),
        .operation (.report (.terminalAdded ⟨1⟩ ⟨7⟩)),
        .operation (.report (.terminalAdded ⟨1⟩ ⟨8⟩))]
    let typed : Turn := .operation (.command (.keys "x"))
    let printed : Turn := .operation (.report (.terminalOutput ⟨8⟩ (.raw [104, 105])))
    let turns := opened ++ [printed, typed]
    let turns' := opened ++ [typed]
    let d := (start {}).1
    turns.filter (·.speaker?.isNone) = turns'.filter (·.speaker?.isNone) ∧
    (∀ t, t = ⟨8⟩ → d.Unpresented turns t ∧ d.Unpresented turns' t) ∧
    ((d.takeAll turns).1.sessions.get? ⟨8⟩).map (·.scrollback.retained) = some [104, 105] ∧
    ((d.takeAll turns').1.sessions.get? ⟨8⟩).map (·.scrollback.retained) = some [] ∧
    Effect.requests (d.takeAll turns).2 = [.key ⟨7⟩ "x"] ∧
    Effect.records (d.takeAll turns).2 = Effect.records (d.takeAll turns').2 := by
  intro opened typed printed turns turns' d
  have same : turns.filter (·.speaker?.isNone) = turns'.filter (·.speaker?.isNone) := rfl
  have unpresented : ∀ t, t = ⟨8⟩ → d.Unpresented turns t ∧ d.Unpresented turns' t := by
    rintro t rfl
    exact ⟨unpresented_of_take (by decide +kernel), unpresented_of_take (by decide +kernel)⟩
  have sent : Effect.requests (d.takeAll turns').2 = [.key ⟨7⟩ "x"] := by decide +kernel
  obtain ⟨-, requests, -, -, logs⟩ := output_steers_nothing {} turns turns' same
  exact ⟨same, unpresented, by decide +kernel, by decide +kernel, requests.trans sent,
    logs (· = ⟨8⟩) (fun t quiet => unpresented t (of_decide_eq_true quiet)) rfl⟩

end Desk

end Switchboard
