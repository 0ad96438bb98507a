import Switchboard.Console.Resolve
import Switchboard.Proofs.Desk.History
import Switchboard.Proofs.Text.Words

/-!
# Entries opened by their names

A console line names an entry by words, which are put together with one space between them. So an
entry is opened by its name only if the name has no other white space (`opened_by_name`), and
`wide_name_opens_another` is a name with two spaces that opens another entry.
-/

namespace Switchboard

variable {name : String}

namespace Command

theorem withoutLineEnds_append (before : String) (some : name ≠ "")
    (noReturn : '\r' ∉ name.toList) (noFeed : '\n' ∉ name.toList) :
    withoutLineEnds (before ++ name) = before ++ name := by
  obtain none | ⟨init, last, split⟩ := List.eq_nil_or_concat name.toList
  · exact absurd (String.toList_inj.mp none) some
  · rw [List.concat_eq_append] at split
    have mem : last ∈ name.toList := by simp [split]
    have kept : (last == '\r' || last == '\n') = false := by
      rw [Bool.or_eq_false_iff, beq_eq_false_iff_ne, beq_eq_false_iff_ne]
      exact ⟨fun same => noReturn (same ▸ mem), fun same => noFeed (same ▸ mem)⟩
    have ends : Text.dropEndWhile (fun c => c == '\r' || c == '\n') (before ++ name).toList =
        (before ++ name).toList := by
      rw [String.toList_append, split, ← List.append_assoc]
      exact Text.dropEndWhile_append_of_false _ kept
    rw [withoutLineEnds, Text.trimEnd, ends, String.ofList_toList]

theorem words_open (name : String) : Text.words ("open " ++ name) = "open" :: Text.words name := by
  have lead : Text.IsWord "open".toList := by decide
  rw [show "open " = "open" ++ " " from rfl, Text.words_lead lead]

theorem ofWords_open (line word : String) (more : List String) :
    ofWords line ("open" :: word :: more) = .ok (.openEntry (" ".intercalate (word :: more))) := by
  unfold ofWords
  rfl

/-- The words of the name are put together again, if there are any. -/
theorem parse_open (some : name ≠ "") (noReturn : '\r' ∉ name.toList)
    (noFeed : '\n' ∉ name.toList) :
    parse (":open " ++ name) =
      if Text.words name = [] then .error (.unknown (":open " ++ name))
      else .ok (.openEntry (" ".intercalate (Text.words name))) := by
  have command : Text.after? ":" (":open " ++ name) = Option.some ("open " ++ name) := by
    have rest : Text.restAfter? ":".toList (":open " ++ name).toList =
        Option.some ("open " ++ name).toList := by
      rw [Text.restAfter?_eq_some_iff, ← String.toList_append]
      rfl
    rw [Text.after?, rest, Option.map_some, String.ofList_toList]
  unfold parse
  simp only [withoutLineEnds_append _ some noReturn noFeed, command, words_open]
  cases Text.words name with
  | nil => rfl
  | cons word more => exact ofWords_open _ word more

end Command

/-! ### Entries of a listing -/

namespace Remote.Listing

variable {l : Listing} {index index' : Nat}

/-- An entry has a name, and none before it does. -/
structure FirstNamed (l : Listing) (name : String) (index : Nat) : Prop where
  named : l.entries[index]?.map (·.name) = some name
  first : ∀ i < index, l.entries[i]?.map (·.name) ≠ some name

theorem find?_eq_some_iff : l.find? name = some index ↔ l.FirstNamed name index := by
  rw [find?, List.findIdx?_eq_some_iff_getElem]
  constructor
  · rintro ⟨small, named, before⟩
    refine ⟨by simpa [List.getElem?_eq_getElem small] using named, fun i lower => ?_⟩
    simpa [List.getElem?_eq_getElem (Nat.lt_trans lower small)] using before i lower
  · rintro ⟨named, before⟩
    obtain ⟨e, there, named⟩ := Option.map_eq_some_iff.mp named
    obtain ⟨small, rfl⟩ := List.getElem?_eq_some_iff.mp there
    refine ⟨small, beq_iff_eq.mpr named, fun i lower => ?_⟩
    simpa [List.getElem?_eq_getElem (Nat.lt_trans lower small)] using before i lower

theorem exists_firstNamed {e : Entry} (mem : e ∈ l.entries) :
    ∃ index, l.FirstNamed e.name index := by
  have found : (l.find? e.name).isSome := by
    rw [find?, List.findIdx?_isSome, List.any_eq_true]
    exact ⟨e, mem, beq_iff_eq.mpr rfl⟩
  obtain ⟨index, found⟩ := Option.isSome_iff_exists.mp found
  exact ⟨index, find?_eq_some_iff.mp found⟩

end Remote.Listing

/-! ### Commands that open an entry -/

namespace Desk

open Remote

variable {d : Desk} {t : TerminalId} {s : Session} {l : Listing} {e : Entry} {index : Nat}

theorem resolve_openEntry_iff (presented : d.presented = some t)
    (live : d.sessions.get? t = some s) (listed : s.listing = some l) :
    d.resolve (.openEntry name) = .ok (.intent (.openEntry t index)) ↔
      l.FirstNamed name index := by
  have found : (d.sessions.get? t).bind (·.indexOf? name) = l.find? name := by
    rw [live, Option.bind_some, Session.indexOf?, listed, Option.bind_some]
  have active : d.activeTerminal = .ok t := by rw [activeTerminal, presented, Option.elim_some]
  simp only [resolve, active, found, ← Listing.find?_eq_some_iff, bind, Except.bind]
  cases l.find? name <;> simp [throw, throwThe, MonadExceptOf.throw, pure, Except.pure]

/-- A console line stands for an intent on a desk. -/
def LineMeans (d : Desk) (line : String) (i : Intent) : Prop :=
  ∃ c, Command.parse line = .ok c ∧ d.resolve c = .ok (.intent i)

/-- On whatever desk a listing is presented, the line with the name of an entry opens the first
entry with just that name exactly if the name has one space between each two words and no other
white space. With any other name the line is no command or names something else. -/
theorem opened_by_name (presented : d.presented = some t) (live : d.sessions.get? t = some s)
    (listed : s.listing = some l) (mem : e ∈ l.entries) (some : e.name ≠ "")
    (noReturn : '\r' ∉ e.name.toList) (noFeed : '\n' ∉ e.name.toList) :
    let line := ":open " ++ e.name
    (∃ index, l.FirstNamed e.name index ∧
      (d.LineMeans line (.openEntry t index) ↔ Text.SingleSpaced e.name)) ∧
    (¬ Text.SingleSpaced e.name → Command.parse line = .error (.unknown line) ∨
      ∃ other ≠ e.name, Command.parse line = .ok (.openEntry other)) := by
  intro line
  have parsed := Command.parse_open some noReturn noFeed
  obtain ⟨index, first⟩ := Listing.exists_firstNamed mem
  refine ⟨⟨index, first, ?_, fun spaced => ?_⟩, fun wide => ?_⟩
  · rintro ⟨c, stands, opens⟩
    rw [parsed] at stands
    split at stands
    · cases stands
    · obtain rfl := Except.ok.inj stands
      have same := (resolve_openEntry_iff presented live listed).mp opens
      exact Text.intercalate_words_eq_iff.mp (Option.some.inj (same.named.symm.trans first.named))
  · have same := Text.intercalate_words_eq_iff.mpr spaced
    have words : Text.words e.name ≠ [] := fun none => some (by rw [← same, none]; rfl)
    rw [if_neg words, same] at parsed
    exact ⟨_, parsed, (resolve_openEntry_iff presented live listed).mpr first⟩
  · by_cases none : Text.words e.name = []
    · exact .inl (parsed.trans (if_pos none))
    · refine .inr ⟨_, fun same => wide ?_, parsed.trans (if_neg none)⟩
      exact Text.intercalate_words_eq_iff.mp same

theorem opened_by_name_with_space :
    let turns : List Turn :=
      [.operation (.report (.hostConnected ⟨⟨1⟩, "", "", ""⟩)),
        .operation (.report (.terminalAdded ⟨1⟩ ⟨7⟩)),
        .operation (.report (.directoryListing ⟨7⟩ "/srv" [⟨"my file", false, 3, 0⟩]))]
    let d := ((start {}).1.takeAll turns).1
    d.presented = some ⟨7⟩ ∧ d.LineMeans ":open my file" (.openEntry ⟨7⟩ 1) := by
  intro turns d
  let l : Listing := .ofFiles "/srv" [⟨"my file", false, 3, 0⟩]
  have presented : d.presented = some ⟨7⟩ := by decide +kernel
  have listed : (d.sessions.get? ⟨7⟩).bind (·.listing) = some l := by decide +kernel
  obtain ⟨s, live, listed⟩ := Option.bind_eq_some_iff.mp listed
  have mem : Entry.ofListed "/srv" ⟨"my file", false, 3, 0⟩ ∈ l.entries := by decide +kernel
  have spaced : Text.SingleSpaced "my file" := by decide
  obtain ⟨⟨index, first, opens⟩, -⟩ := opened_by_name presented live listed mem (by decide)
    (by decide) (by decide)
  have second : l.find? "my file" = some 1 := by decide +kernel
  obtain rfl := Option.some.inj (second.symm.trans (Listing.find?_eq_some_iff.mpr first))
  exact ⟨presented, opens.mpr spaced⟩

/-- The name of the second entry has two spaces, and the line with it opens the first. -/
theorem wide_name_opens_another :
    let turns : List Turn :=
      [.operation (.report (.hostConnected ⟨⟨1⟩, "", "", ""⟩)),
        .operation (.report (.terminalAdded ⟨1⟩ ⟨7⟩)),
        .operation (.report (.directoryListing ⟨7⟩ "/"
          [⟨"a b", false, 3, 0⟩, ⟨"a  b", false, 4, 0⟩]))]
    let d := ((start {}).1.takeAll turns).1
    ∃ s l, d.presented = some ⟨7⟩ ∧ d.sessions.get? ⟨7⟩ = some s ∧ s.listing = some l ∧
      l.FirstNamed "a  b" 1 ∧ d.LineMeans ":open a  b" (.openEntry ⟨7⟩ 0) ∧
      ¬ d.LineMeans ":open a  b" (.openEntry ⟨7⟩ 1) := by
  intro turns d
  let l : Listing := .ofFiles "/" [⟨"a b", false, 3, 0⟩, ⟨"a  b", false, 4, 0⟩]
  have listed : (d.sessions.get? ⟨7⟩).bind (·.listing) = some l := by decide +kernel
  obtain ⟨s, live, listed⟩ := Option.bind_eq_some_iff.mp listed
  have parsed : Command.parse ":open a  b" = .ok (.openEntry "a b") := by decide +kernel
  have opens : d.resolve (.openEntry "a b") = .ok (.intent (.openEntry ⟨7⟩ 0)) := by decide +kernel
  refine ⟨s, l, by decide +kernel, live, listed,
    Listing.find?_eq_some_iff.mp (by decide +kernel), ⟨_, parsed, opens⟩, ?_⟩
  rintro ⟨c, parsed', opens'⟩
  obtain rfl := Except.ok.inj (parsed.symm.trans parsed')
  rw [opens] at opens'
  cases opens'

end Desk

end Switchboard
