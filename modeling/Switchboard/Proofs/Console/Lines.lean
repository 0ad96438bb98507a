import Switchboard.Console.Lines
import Switchboard.Proofs.Text.Trim
import Switchboard.Proofs.Text.Utf8
import Switchboard.Proofs.Text.Words

/-!
# Lines of console input

Console input is typed as lines, each with one of two line ends, and a last line may have none.
`lines_delivered`: whichever line ends are used, the commands among the lines are delivered in
order, up to the first line that is no text.
-/

namespace Switchboard.Console

/-- How a line ends. -/
inductive LineEnd where
  | feed
  | returnFeed
deriving DecidableEq, Repr

/-- What stands between a line and the line feed. -/
def LineEnd.lead : LineEnd → Bytes
  | feed => []
  | returnFeed => [carriageReturn]

/-- Input as it is typed: lines with their ends, and behind them a line without an end, which is
none if it is empty. A line feed always ends a line. -/
structure Typed where
  ended : List (Bytes × LineEnd)
  last : Bytes
  whole : ∀ line ∈ ended.map Prod.fst ++ [last], lineFeed ∉ line

namespace Typed

def lines (t : Typed) : List Bytes :=
  t.ended.map Prod.fst ++ if t.last = [] then [] else [t.last]

def bytes (t : Typed) : Bytes :=
  t.ended.flatMap (fun (line, ending) => line ++ ending.lead ++ [lineFeed]) ++ t.last

end Typed

/-- The commands among some texts, in their order. -/
def commandsOf (texts : List String) : List Command :=
  texts.filterMap fun text => (Command.parse text).toOption

variable {t : Typed} {line bad : Bytes} {ls ls' : List Bytes}

/-! ### Line ends -/

theorem lineFeed_notMem_lead (ending : LineEnd) : lineFeed ∉ ending.lead := by
  cases ending <;> decide

theorem splitOn_bytes (t : Typed) :
    t.bytes.splitOn lineFeed =
      t.ended.map (fun (line, ending) => line ++ ending.lead) ++ [t.last] := by
  obtain ⟨ended, last, whole⟩ := t
  induction ended with
  | nil => exact Text.splitOn_of_notMem (whole last (by simp))
  | cons row rows ih =>
    obtain ⟨first, rest⟩ := List.forall_mem_cons.mp whole
    have front : lineFeed ∉ row.1 ++ row.2.lead := by
      rw [List.mem_append]
      exact not_or.mpr ⟨first, lineFeed_notMem_lead _⟩
    have cut : Typed.bytes ⟨row :: rows, last, whole⟩ =
        (row.1 ++ row.2.lead) ++ lineFeed :: Typed.bytes ⟨rows, last, rest⟩ := by
      simp [Typed.bytes]
    rw [cut, List.splitOn_append_cons_self, Text.splitOn_of_notMem front, ih rest]
    rfl

theorem lines_bytes (t : Typed) :
    lines t.bytes = t.ended.map (fun (line, ending) => withoutReturn (line ++ ending.lead)) ++
      if t.last = [] then [] else [t.last] := by
  simp only [lines, splitOn_bytes, List.dropLast_concat, List.map_map, List.getLast?_concat]
  by_cases none : t.last = []
  · simp [none, Function.comp_def]
  · simp [none, Function.comp_def]

theorem intercalate_concat (init : List Bytes) (last : Bytes) :
    [lineFeed].intercalate (init ++ [last]) = init.flatMap (· ++ [lineFeed]) ++ last := by
  induction init with
  | nil => simp
  | cons line init ih =>
    rw [List.cons_append, List.intercalate_cons_of_ne_nil (by simp), ih, List.flatMap_cons,
      List.append_assoc (line ++ [lineFeed])]

/-- Every input is typed in some way. -/
theorem exists_typed (input : Bytes) : ∃ t : Typed, t.bytes = input := by
  obtain none | ⟨init, last, pieces⟩ := List.eq_nil_or_concat (input.splitOn lineFeed)
  · exact absurd none (List.splitOnP_ne_nil _ _)
  · rw [List.concat_eq_append] at pieces
    have whole : ∀ line ∈ init ++ [last], lineFeed ∉ line := by
      rw [← pieces]
      exact fun line mem feed => absurd (Text.eq_false_of_mem_splitOnP mem _ feed) (by decide)
    have joined : [lineFeed].intercalate (input.splitOn lineFeed) = input :=
      List.intercalate_splitOn lineFeed
    rw [pieces, intercalate_concat] at joined
    refine ⟨⟨init.map (·, .feed), last, by simpa using whole⟩, ?_⟩
    rw [← joined]
    simp [Typed.bytes, List.flatMap_map, LineEnd.lead]

/-! ### What is read in a line -/

/-- What a line says, if it is a text. -/
def reading (line : Bytes) : Option (Except CommandError Command) :=
  (Text.text? line).map Command.parse

theorem parse_push_return (text : String) :
    Command.parse (text.push '\r') = Command.parse text := by
  have cut : Command.withoutLineEnds (text.push '\r') = Command.withoutLineEnds text := by
    rw [String.push_eq_append]
    exact Text.trimEnd_append_of_all text (List.all_eq_true.mp rfl)
  rw [Command.parse, cut, Command.parse]

theorem reading_append_return (line : Bytes) :
    reading (line ++ [carriageReturn]) = reading line := by
  have apart := Text.text?_append_ascii (c := '\r') (by decide) line
  rw [reading, show carriageReturn = UInt8.ofNat '\r'.toNat from rfl, apart, Option.map_map]
  simp only [Function.comp_def, parse_push_return, reading]

theorem reading_withoutReturn (line : Bytes) : reading (withoutReturn line) = reading line := by
  unfold withoutReturn
  split
  · rename_i ends
    obtain ⟨init, rfl⟩ := List.getLast?_eq_some_iff.mp ends
    rw [List.dropLast_concat, reading_append_return]
  · rfl

theorem reading_ended (line : Bytes) (ending : LineEnd) :
    reading (withoutReturn (line ++ ending.lead)) = reading line := by
  rw [reading_withoutReturn]
  cases ending with
  | feed => rw [LineEnd.lead, List.append_nil]
  | returnFeed => exact reading_append_return line

theorem readLines_cons (live : Bool) (line : Bytes) (ls : List Bytes) :
    readLines live (line :: ls) = match reading line with
      | none => ([], .badLine)
      | some (.error _) => readLines live ls
      | some (.ok command) =>
        if live then (command :: (readLines live ls).1, (readLines live ls).2)
        else ([], .finished) := by
  rw [readLines, reading]
  cases Text.text? line with
  | none => rfl
  | some text => dsimp only [Option.map_some]; cases Command.parse text <;> rfl

/-- Only what the lines say matters for what is delivered. -/
theorem readLines_congr (live : Bool) (same : ls.map reading = ls'.map reading) :
    readLines live ls = readLines live ls' := by
  induction ls generalizing ls' with
  | nil =>
    rw [List.map_nil, eq_comm, List.map_eq_nil_iff] at same
    rw [same]
  | cons line ls ih =>
    obtain ⟨line', rest, rfl, first, later⟩ := List.map_eq_cons_iff.mp same.symm
    rw [readLines_cons, readLines_cons, first, ih later.symm]

theorem readCommands_bytes (live : Bool) (t : Typed) :
    readCommands live t.bytes = readLines live t.lines := by
  refine readLines_congr live ?_
  rw [lines_bytes, Typed.lines, List.map_append, List.map_append, List.map_map, List.map_map]
  exact congrArg (· ++ _) (List.map_congr_left fun row _ => reading_ended row.1 row.2)

/-! ### What is delivered -/

/-- Texts give the commands among them, and what follows is read on. -/
theorem readLines_texts (texts : List String) (rest : List Bytes) :
    readLines true (texts.map Text.bytes ++ rest) =
      (commandsOf texts ++ (readLines true rest).1, (readLines true rest).2) := by
  induction texts with
  | nil => rfl
  | cons text texts ih =>
    have read : reading (Text.bytes text) = some (Command.parse text) := by
      rw [reading, Text.text?_bytes, Option.map_some]
    rw [List.map_cons, List.cons_append, readLines_cons, read, ih]
    cases parsed : Command.parse text with
    | error e => simp [commandsOf, parsed, Except.toOption]
    | ok command => simp [commandsOf, parsed, Except.toOption]

theorem readLines_bad (invalid : Text.text? bad = none) (rest : List Bytes) :
    readLines true (bad :: rest) = ([], .badLine) := by
  rw [readLines, invalid]

/-- With somebody to take them, the commands among the lines are delivered in order and nothing
else, if all lines are texts; otherwise those before the first line that is none, and then the input
has failed. It makes no difference which line ends were typed. Every input is typed in some way. -/
theorem lines_delivered :
    (∀ input, ∃ t : Typed, t.bytes = input) ∧
    ∀ t : Typed,
      (∀ texts : List String, t.lines = texts.map Text.bytes →
        readCommands true t.bytes = (commandsOf texts, .finished)) ∧
      (∀ (texts : List String) (bad : Bytes) (rest : List Bytes),
        t.lines = texts.map Text.bytes ++ bad :: rest → Text.text? bad = none →
        readCommands true t.bytes = (commandsOf texts, .badLine)) ∧
      ∀ t' : Typed, t'.lines = t.lines →
        readCommands true t'.bytes = readCommands true t.bytes := by
  refine ⟨exists_typed, fun t => ⟨fun texts all => ?_, fun texts bad rest split invalid => ?_,
    fun t' same => ?_⟩⟩
  · have delivered := readLines_texts texts []
    rw [List.append_nil, ← all, ← readCommands_bytes] at delivered
    rw [delivered, readLines, List.append_nil]
  · rw [readCommands_bytes, split, readLines_texts, readLines_bad invalid, List.append_nil]
  · rw [readCommands_bytes, readCommands_bytes, same]

theorem lines_delivered_of_mixed :
    readCommands true (Text.bytes ":add\n:frob\r\nls\r\n:files") =
      ([.add, .keys "ls\r", .files], .finished) ∧
    readCommands true (Text.bytes ":add\r\n:frob\nls\n:files") =
      readCommands true (Text.bytes ":add\n:frob\r\nls\r\n:files") ∧
    readCommands true (Text.bytes ":add\r\n" ++ 0xFF :: Text.bytes "\n:files\n") =
      ([.add], .badLine) := by
  let t : Typed :=
    ⟨[(Text.bytes ":add", .feed), (Text.bytes ":frob", .returnFeed),
      (Text.bytes "ls", .returnFeed)], Text.bytes ":files", by decide +kernel⟩
  let t' : Typed :=
    ⟨[(Text.bytes ":add", .returnFeed), (Text.bytes ":frob", .feed), (Text.bytes "ls", .feed)],
      Text.bytes ":files", by decide +kernel⟩
  let invalid : Typed :=
    ⟨[(Text.bytes ":add", .returnFeed), ([0xFF], .feed), (Text.bytes ":files", .feed)], [],
      by decide +kernel⟩
  obtain ⟨-, delivered⟩ := lines_delivered
  obtain ⟨all, -, alike⟩ := delivered t
  obtain ⟨-, first, -⟩ := delivered invalid
  have texts := all [":add", ":frob", "ls", ":files"] (by decide +kernel)
  have same := alike t' (by decide +kernel)
  have failed := first [":add"] [0xFF] [Text.bytes ":files"] (by decide +kernel) (by decide +kernel)
  rw [show t.bytes = Text.bytes ":add\n:frob\r\nls\r\n:files" by decide +kernel] at texts same
  rw [show t'.bytes = Text.bytes ":add\r\n:frob\nls\n:files" by decide +kernel] at same
  rw [show invalid.bytes = Text.bytes ":add\r\n" ++ 0xFF :: Text.bytes "\n:files\n" by
    decide +kernel] at failed
  have among : commandsOf [":add", ":frob", "ls", ":files"] = [.add, .keys "ls\r", .files] := by
    decide +kernel
  have before : commandsOf [":add"] = [.add] := by decide +kernel
  rw [among] at texts
  rw [before] at failed
  exact ⟨texts, same, failed⟩

end Switchboard.Console
