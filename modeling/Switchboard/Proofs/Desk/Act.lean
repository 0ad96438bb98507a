import Switchboard.Desk.Report
import Switchboard.Desk.Intent

/-!
# Acts of a desk

A step changes a desk and acts: it gives cues, queues requests and publishes events. Neither the
change nor the acts depend on who is subscribed; only whom an event reaches does. `Enacts` says this
of a step, and each step of the desk has a lemma that names its change and its acts.
-/

namespace Switchboard

/-- What a desk does besides changing, before the bus decides whom an event reaches. -/
inductive Act where
  | cue (c : Cue)
  | send (r : Wire.Request)
  | publish (origin : Origin) (e : Event)

/-- The subscriber whom events of an origin pass by. -/
def Origin.sender (presenter : SubscriberId) : Origin → Option SubscriberId
  | .server => none
  | .presenter => some presenter

namespace Effect

theorem cues_append (es more : List Effect) : cues (es ++ more) = cues es ++ cues more :=
  List.filterMap_append

theorem requests_append (es more : List Effect) :
    requests (es ++ more) = requests es ++ requests more := List.filterMap_append

theorem deliveries_append (es more : List Effect) :
    deliveries (es ++ more) = deliveries es ++ deliveries more := List.filterMap_append

end Effect

namespace Bus

/-- What comes of an act on a bus: the bus after it and its effects. -/
def relay (presenter : SubscriberId) (b : Bus) : Act → Bus × List Effect
  | .cue c => (b, [.cue c])
  | .send r => (b, [.send r])
  | .publish origin e =>
    let (deliveries, bus) := b.publish (origin.sender presenter) e
    (bus, (deliveries.filter (·.1 ≠ presenter)).map .deliver ++
      (deliveries.filter (·.1 = presenter)).map fun delivery => .cue (.event delivery.2))

def relayAll (presenter : SubscriberId) (b : Bus) : List Act → Bus × List Effect
  | [] => (b, [])
  | act :: acts =>
    let (bus, effects) := b.relay presenter act
    let (bus, more) := bus.relayAll presenter acts
    (bus, effects ++ more)

theorem relayAll_append (presenter : SubscriberId) (b : Bus) (acts more : List Act) :
    b.relayAll presenter (acts ++ more) =
      (((b.relayAll presenter acts).1.relayAll presenter more).1,
        (b.relayAll presenter acts).2 ++
          ((b.relayAll presenter acts).1.relayAll presenter more).2) := by
  induction acts generalizing b with
  | nil => rfl
  | cons act acts ih => simp [relayAll, ih]

end Bus

namespace Desk

variable {step : Step} {steps : List Step} {d d₁ d₂ : Desk} {acts more : List Act}

/-- Whoever is subscribed, a step changes `d` to `d₁` and does `acts`. -/
structure Enacts (step : Step) (d d₁ : Desk) (acts : List Act) : Prop where
  presenter : d₁.presenter = d.presenter
  result : ∀ bus, step { d with bus } =
    ({ d₁ with bus := (bus.relayAll d.presenter acts).1 }, (bus.relayAll d.presenter acts).2)

namespace Enacts

theorem eq (e : Enacts step d d₁ acts) :
    step d = ({ d₁ with bus := (d.bus.relayAll d.presenter acts).1 },
      (d.bus.relayAll d.presenter acts).2) := e.result d.bus

theorem of_eq {step' : Step} (e : Enacts step' d₁ d₂ acts) (presenter : d₁.presenter = d.presenter)
    (same : ∀ bus, step { d with bus } = step' { d₁ with bus }) : Enacts step d d₂ acts where
  presenter := e.presenter.trans presenter
  result bus := by rw [same, e.result, presenter]

theorem still (nothing : ∀ bus, step { d with bus } = ({ d with bus }, [])) :
    Enacts step d d [] := ⟨rfl, nothing⟩

theorem nil (d : Desk) : Enacts (perform · []) d d [] := still fun _ => rfl

theorem cons (first : Enacts step d d₁ acts) (rest : Enacts (perform · steps) d₁ d₂ more) :
    Enacts (perform · (step :: steps)) d d₂ (acts ++ more) where
  presenter := rest.presenter.trans first.presenter
  result bus := by
    simp only [perform_cons, Bus.relayAll_append]
    rw [first.result, rest.result, first.presenter]

theorem append {steps' : List Step} (first : Enacts (perform · steps) d d₁ acts)
    (rest : Enacts (perform · steps') d₁ d₂ more) :
    Enacts (perform · (steps ++ steps')) d d₂ (acts ++ more) where
  presenter := rest.presenter.trans first.presenter
  result bus := by
    simp only [perform_append, Bus.relayAll_append]
    rw [first.result, rest.result, first.presenter]

theorem single (e : Enacts step d d₁ acts) : Enacts (perform · [step]) d d₁ acts := by
  simpa using e.cons (nil d₁)

theorem pair {step' : Step} (first : Enacts step d d₁ acts) (second : Enacts step' d₁ d₂ more) :
    Enacts (perform · [step, step']) d d₂ (acts ++ more) := first.cons second.single

theorem ite (p : Prop) [Decidable p] (e : Enacts (perform · steps) d d₁ acts) :
    Enacts (perform · (if p then steps else [])) d (if p then d₁ else d)
      (if p then acts else []) := by
  by_cases holds : p
  · simpa [holds] using e
  · simpa [holds] using nil d

theorem ite_same (p : Prop) [Decidable p] (e : Enacts (perform · steps) d d acts) :
    Enacts (perform · (if p then steps else [])) d d (if p then acts else []) := by
  simpa using e.ite p

end Enacts

/-! ### The steps of which operations are made -/

theorem enacts_tell (c : Cue) (d : Desk) : Enacts (tell c) d d [.cue c] := ⟨rfl, fun _ => rfl⟩

theorem enacts_ask (r : Wire.Request) (d : Desk) : Enacts (ask r) d d [.send r] :=
  ⟨rfl, fun _ => rfl⟩

theorem relayAll_cues (presenter : SubscriberId) (b : Bus) (cues : List Cue) :
    b.relayAll presenter (cues.map .cue) = (b, cues.map .cue) := by
  induction cues with
  | nil => rfl
  | cons c cues ih => simp [Bus.relayAll, Bus.relay, ih]

theorem enacts_cues (cues : Desk → List Cue) (d : Desk)
    (same : ∀ bus, cues { d with bus } = cues d) :
    Enacts (fun d => (d, (cues d).map .cue)) d d ((cues d).map .cue) where
  presenter := rfl
  result bus := by rw [relayAll_cues, same]

def hostActs (d : Desk) (cue : Host → Cue) (host : HostId) : List Act :=
  ((d.roster.host? host).map fun h => Act.cue (cue h)).toList

theorem filterMap_hostActs {α : Type} {f : Act → Option α} {cue : Host → Cue}
    (off : ∀ h, f (.cue (cue h)) = none) (d : Desk) (host : HostId) :
    (d.hostActs cue host).filterMap f = [] := by
  cases found : d.roster.host? host <;> simp [hostActs, found, off]

theorem enacts_tellOf (cue : Host → Cue) (host : HostId) (d : Desk) :
    Enacts (tellOf cue host) d d (d.hostActs cue host) where
  presenter := rfl
  result bus := by
    cases found : d.roster.host? host <;> simp [tellOf, hostActs, found, Bus.relayAll, Bus.relay]

theorem enacts_showSlots (host : HostId) (d : Desk) :
    Enacts (showSlots host) d d (d.hostActs .slotsChanged host) := enacts_tellOf _ host d

theorem sender_eq (d : Desk) (origin : Origin) : d.sender origin = origin.sender d.presenter := by
  cases origin <;> rfl

theorem enacts_publish (origin : Origin) (e : Event) (d : Desk) :
    Enacts (publish origin e) d d [.publish origin e] where
  presenter := rfl
  result bus := by simp [publish, sender_eq, Bus.relayAll, Bus.relay]

theorem enacts_publishHost (origin : Origin) (d : Desk) :
    Enacts (publishHost origin) d d [.publish origin (.hostSelected d.roster.current)] :=
  (enacts_publish origin (.hostSelected d.roster.current) d).of_eq rfl fun _ => rfl

/-- The desk when it presents the session that should be. -/
def refreshed (d : Desk) : Desk := { d with view := ⟨d.wanted?.map (·.id)⟩ }

def refreshCues (d : Desk) : List Cue :=
  .present d.wanted? ::
    ((d.wanted?.map (·.id)).filter d.showsFiles).toList.map (.fileBrowser · true)

def refreshActs (d : Desk) (origin : Origin) : List Act :=
  if d.view.changes d.wanted? then
    d.refreshCues.map .cue ++ [.publish origin (.terminalSelected (d.wanted?.map (·.id)))]
  else []

theorem present_of_changes {v : View} {s : Option Session} (changes : v.changes s = true) :
    v.present s = ([.present s], ⟨s.map (·.id)⟩) := by
  simp [View.present, changes]

theorem refreshed_of_same (same : d.view.changes d.wanted? = false) : d.refreshed = d := by
  have current : d.wanted?.map (·.id) = d.view.current := by simpa [View.changes] using same
  simp only [refreshed, current]

theorem enacts_refreshView (origin : Origin) (d : Desk) :
    Enacts (refreshView origin) d d.refreshed (d.refreshActs origin) := by
  cases changes : d.view.changes d.wanted? with
  | true =>
    have cues := (enacts_cues (fun _ => [.present d.wanted?]) d.refreshed fun _ => rfl).pair
      (enacts_cues (fun d => (d.presented.filter d.showsFiles).toList.map (.fileBrowser · true))
        d.refreshed fun _ => rfl)
    have steps := cues.append
      (enacts_publish origin (.terminalSelected (d.wanted?.map (·.id))) d.refreshed).single
    rw [← List.map_append] at steps
    simp only [refreshActs, changes, if_true]
    refine steps.of_eq rfl fun bus => ?_
    have there : ({ d with bus } : Desk).view.changes ({ d with bus } : Desk).wanted? = true :=
      changes
    simp only [refreshView, there, if_true]
    rw [present_of_changes there]
    simp only [List.map_map]
    rfl
  | false =>
    simp only [refreshActs, changes, refreshed_of_same changes]
    refine Enacts.still fun bus => ?_
    have there : ({ d with bus } : Desk).view.changes ({ d with bus } : Desk).wanted? = false :=
      changes
    simp [refreshView, there]

def forgotten (d : Desk) (t : TerminalId) : Desk :=
  { d with sessions := d.sessions.destroy t, sizes := d.sizes.erase t }

theorem foldl_forgotten (ts : List TerminalId) (d : Desk) :
    ts.foldl forgotten d =
      { d with
        sessions := ts.foldl Sessions.destroy d.sessions
        sizes := ts.foldl Table.erase d.sizes } := by
  induction ts generalizing d with
  | nil => rfl
  | cons t ts ih => exact ih (d.forgotten t)

theorem enacts_forget (t : TerminalId) (d : Desk) : Enacts (forget t) d (d.forgotten t) [] :=
  ⟨rfl, fun _ => rfl⟩

/-- What the end of a terminal makes a desk do when its host is gone. -/
def endActs (host : HostId) (t : TerminalId) : List Act :=
  [.send (.closeTerminal t), .publish .server (.terminalClosed host t)]

theorem enacts_forgetAll (host : HostId) (ts : List TerminalId) (d : Desk) :
    Enacts (perform · (ts.flatMap fun t =>
      [ask (.closeTerminal t), forget t, publish .server (.terminalClosed host t)]))
      d (ts.foldl forgotten d) (ts.flatMap (endActs host)) := by
  induction ts generalizing d with
  | nil => exact .nil d
  | cons t ts ih =>
    have one := ((enacts_ask (.closeTerminal t) d).cons
      ((enacts_forget t d).pair (enacts_publish .server (.terminalClosed host t) (d.forgotten t))))
    exact one.append (ih (d.forgotten t))

end Desk

end Switchboard
