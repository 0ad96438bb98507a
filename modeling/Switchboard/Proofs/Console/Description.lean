import Switchboard.Console.Resolve
import Switchboard.Proofs.Number.Digits
import Switchboard.Proofs.Roster.WellFormed
import Switchboard.Proofs.Text.Words

/-!
# The description of hosts

A line for each host, in which each slot has its number. `describeHosts_eq`: the description is
these lines, and `Numbers.prints`: the current host's line is the one with a star, and shows every
slot under its number.
-/

namespace Switchboard

/-! ### Texts that do not end in white space -/

namespace Text

/-- The last character of a text is not white space. -/
def EndsVisibly (s : String) : Prop := ∃ c, s.toList.getLast? = some c ∧ isBlank c = false

variable {s : String}

theorem EndsVisibly.append (e : EndsVisibly s) (before : String) : EndsVisibly (before ++ s) := by
  obtain ⟨c, last, plain⟩ := e
  exact ⟨c, by rw [String.toList_append, List.getLast?_append, last, Option.some_or], plain⟩

theorem endsVisibly_decimal (n : Nat) : EndsVisibly (Number.decimal n) := by
  obtain ⟨d, ds, digits, -⟩ := Number.exists_decimal_eq_cons n
  refine ⟨(d :: ds).getLast (List.cons_ne_nil d ds), ?_, ?_⟩
  · rw [digits, List.getLast?_eq_some_getLast]
  · refine isBlank_of_isDigit (Number.isDigit_of_mem_decimal (n := n) ?_)
    rw [digits]
    exact List.getLast_mem _

theorem trimBlankEnd_line (e : EndsVisibly s) : trimBlankEnd (s ++ "\n") = s := by
  obtain ⟨c, last, plain⟩ := e
  obtain ⟨before, split⟩ := List.getLast?_eq_some_iff.mp last
  have lineEnd : isBlank '\n' = true := rfl
  rw [trimBlankEnd, trimEnd, String.toList_append, show "\n".toList = ['\n'] from rfl,
    dropEndWhile_append_of_true _ lineEnd, split, dropEndWhile_append_of_false _ plain, ← split,
    String.ofList_toList]

theorem join_lines {lines : List String} (some : lines ≠ []) :
    String.join (lines.map (· ++ "\n")) = "\n".intercalate lines ++ "\n" := by
  induction lines with
  | nil => exact absurd rfl some
  | cons line lines ih =>
    cases lines with
    | nil => simp
    | cons next lines =>
      rw [List.map_cons, String.join_cons, ih (List.cons_ne_nil _ _),
        String.intercalate_cons_cons]
      simp only [String.append_assoc]

theorem endsVisibly_intercalate {lines : List String} (some : lines ≠ [])
    (all : ∀ line ∈ lines, EndsVisibly line) : EndsVisibly ("\n".intercalate lines) := by
  induction lines with
  | nil => exact absurd rfl some
  | cons line lines ih =>
    obtain ⟨first, rest⟩ := List.forall_mem_cons.mp all
    cases lines with
    | nil => simpa using first
    | cons next lines =>
      rw [String.intercalate_cons_cons]
      exact (ih (List.cons_ne_nil _ _) rest).append _

end Text

open Text

/-! ### Lines -/

/-- What is said of a host before its slots. -/
def Host.heading (h : Host) : String :=
  " " ++ h.id.text ++ " " ++ h.info.userName ++ "@" ++ h.info.name ++ " (" ++ h.info.ip ++ ")"

namespace Desk

variable {d : Desk} {n : Nat} {h : Host} {s : Slot}

/-- The line of a host, without the line end. -/
def hostLine (current : Option HostId) (h : Host) : String :=
  (if current = some h.id then "*" else " ") ++ h.heading ++
    String.join (h.slots.mapIdx (describeSlot h.selected))

theorem describeHost_eq (current : Option HostId) (h : Host) :
    describeHost current h = hostLine current h ++ "\n" := by
  simp only [describeHost, hostLine, Host.heading, String.append_assoc]

theorem endsVisibly_state (state : SlotState) : EndsVisibly state.text := by
  cases state with
  | idle => exact ⟨'e', rfl, rfl⟩
  | activating => exact ⟨'g', rfl, rfl⟩
  | bound t face =>
    cases face with
    | terminal => exact ⟨'l', (rfl : "terminal".toList.getLast? = some 'l'), rfl⟩
    | files => exact ⟨'t', (rfl : "file_list".toList.getLast? = some 't'), rfl⟩

theorem endsVisibly_describeSlot (selected : Option SlotId) (index : Nat) (s : Slot) :
    EndsVisibly (describeSlot selected index s) := by
  unfold describeSlot
  cases s.terminal? with
  | none =>
    rw [Option.elim_none, String.append_empty]
    exact (endsVisibly_state s.state).append _
  | some t => exact ((endsVisibly_decimal _).append _).append _

theorem endsVisibly_hostLine (current : Option HostId) (h : Host) :
    EndsVisibly (hostLine current h) := by
  unfold hostLine
  rcases List.eq_nil_or_concat h.slots with none | ⟨slots, s, split⟩
  · rw [none, List.mapIdx_nil, String.join_nil, String.append_empty]
    have bracket : EndsVisibly ")" := ⟨')', rfl, rfl⟩
    exact (bracket.append _).append _
  · rw [split, List.concat_eq_append, List.mapIdx_concat, String.join_append, String.join_cons,
      String.join_nil, String.append_empty]
    exact ((endsVisibly_describeSlot _ _ _).append _).append _

/-- The description is a line for each host. -/
theorem describeHosts_eq (some : d.roster.hosts ≠ []) :
    d.describeHosts = "\n".intercalate (d.roster.hosts.map (hostLine d.roster.current)) := by
  have lines : d.roster.hosts.map (describeHost d.roster.current) =
      (d.roster.hosts.map (hostLine d.roster.current)).map (· ++ "\n") := by
    rw [List.map_map]
    exact List.map_congr_left fun h _ => describeHost_eq _ h
  have some' : d.roster.hosts.map (hostLine d.roster.current) ≠ [] := by simpa using some
  rw [describeHosts, if_neg some, lines, join_lines some']
  refine trimBlankEnd_line (endsVisibly_intercalate some' fun line mem => ?_)
  obtain ⟨h, _, rfl⟩ := List.mem_map.mp mem
  exact endsVisibly_hostLine _ h

/-! ### The line of the current host -/

/-- A slot of the current host has a number, counted from 1. -/
structure Numbers (d : Desk) (n : Nat) (h : Host) (s : Slot) : Prop where
  host : d.roster.currentHost? = some h
  positive : 0 < n
  slot : h.slots[n - 1]? = some s

/-- The description shows a slot under a number, on the line of its host, which is the only one that
begins with a star. -/
structure Prints (d : Desk) (n : Nat) (h : Host) (s : Slot) : Prop where
  line : ∃ above below : List String,
    d.describeHosts = "\n".intercalate (above ++
      ("*" ++ h.heading ++ String.join (h.slots.mapIdx (describeSlot h.selected))) :: below) ∧
      ∀ other ∈ above ++ below, other.toList.head? = some ' '
  slot : (h.slots.mapIdx (describeSlot h.selected))[n - 1]? =
    some ("  [" ++ Number.decimal n ++ "]" ++ (if h.selected = some s.id then ">" else "") ++
      s.state.text ++ s.terminal?.elim "" fun t => ":" ++ t.text)

theorem Numbers.mem (numbers : d.Numbers n h s) : s ∈ h.slots :=
  List.mem_of_getElem? numbers.slot

theorem Numbers.prints (numbers : d.Numbers n h s) (wf : d.roster.WellFormed) :
    d.Prints n h s where
  line := by
    obtain ⟨id, current, found⟩ := Option.bind_eq_some_iff.mp numbers.host
    obtain rfl := Roster.id_of_host? found
    obtain ⟨before, after, split⟩ := List.append_of_mem (Roster.mem_of_host? found)
    refine ⟨before.map (hostLine d.roster.current), after.map (hostLine d.roster.current), ?_, ?_⟩
    · have some : d.roster.hosts ≠ [] := by simp [split]
      rw [describeHosts_eq some, split, List.map_append, List.map_cons]
      simp only [hostLine, current, if_true]
    · rw [← List.map_append]
      intro line mem
      obtain ⟨other, inside, rfl⟩ := List.mem_map.mp mem
      have distinct := wf.distinct
      rw [split, List.map_append, List.map_cons, List.nodup_middle, List.nodup_cons,
        ← List.map_append] at distinct
      have apart : d.roster.current ≠ some other.id := by
        intro same
        have equal : h.id = other.id := Option.some.inj (current.symm.trans same)
        exact distinct.1 (equal ▸ List.mem_map_of_mem inside)
      rw [hostLine, if_neg apart]
      simp
  slot := by
    rw [List.getElem?_mapIdx, numbers.slot, Option.map_some, describeSlot,
      Nat.sub_add_cancel numbers.positive]

end Desk

end Switchboard
