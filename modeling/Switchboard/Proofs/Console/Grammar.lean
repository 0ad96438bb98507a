import Switchboard.Console.Command
import Switchboard.Proofs.Number.Digits
import Switchboard.Proofs.Text.Trim
import Switchboard.Proofs.Text.Words

/-!
# The grammar of console lines

`Means` lists the words that each command may have, and `Spells` says how words stand in a line.
`parse_meaning`: a line is a command exactly if its words mean it, and every command that can be
written in a line is read back.
-/

namespace Switchboard.Command

def isLineEnd (c : Char) : Bool := c == '\r' || c == '\n'

/-- The words that mean a command. A number is at most the largest of its type. -/
inductive Means : List String → Command → Prop where
  | hosts : Means ["hosts"] .hosts
  | host {word : String} {id : HostId} (number : Number.Written word.toList id.number.toNat) :
    Means ["host", word] (.host id)
  | add : Means ["add"] .add
  | slot {word : String} {n : UInt64} (number : Number.Written word.toList n.toNat)
    (counted : n ≠ 0) : Means ["slot", word] (.slot n)
  | close : Means ["close"] (.close none)
  | closeSlot {word : String} {n : UInt64} (number : Number.Written word.toList n.toNat)
    (counted : n ≠ 0) : Means ["close", word] (.close (some n))
  | files : Means ["files"] .files
  | root : Means ["ls"] (.ls "/")
  | ls (path : String) : Means ["ls", path] (.ls path)
  | openEntry (word : String) (more : List String) :
    Means ("open" :: word :: more) (.openEntry (" ".intercalate (word :: more)))
  | resize {cols rows : String} {size : Size} (width : Number.Written cols.toList size.cols.toNat)
    (height : Number.Written rows.toList size.rows.toNat) :
    Means ["resize", cols, rows] (.resize size)

/-- A line that is `body` without its line ends, and no command. -/
structure Plain (line body : String) : Prop where
  trims : Text.Trims isLineEnd line body
  plain : ∀ command, body ≠ ":" ++ command

/-- A line that is `body` without its line ends, and has these words behind a colon. -/
structure Spells (line body : String) (ws : List String) : Prop where
  trims : Text.Trims isLineEnd line body
  words : ∃ command, body = ":" ++ command ∧ Text.words command = ws

/-- With what a command is written. A path and a name are put in as they are, words or not. -/
def spoken : Command → List String
  | hosts => ["hosts"]
  | host id => ["host", id.text]
  | add => ["add"]
  | slot n => ["slot", Number.decimal n.toNat]
  | close none => ["close"]
  | close (some n) => ["close", Number.decimal n.toNat]
  | files => ["files"]
  | ls path => ["ls", path]
  | openEntry name => ["open", name]
  | resize size =>
    ["resize", Number.decimal size.cols.toNat, Number.decimal size.rows.toNat]
  | keys _ => []

/-- The line that is typed for a command. -/
def rendering : Command → String
  | keys text => text
  | c => ":" ++ " ".intercalate c.spoken

/-- There is a line for this command. -/
def Writable : Command → Prop
  | slot n => n ≠ 0
  | close (some n) => n ≠ 0
  | ls path => Text.IsWord path.toList
  | openEntry name => name ≠ "" ∧ Text.SingleSpaced name
  | keys text => ∃ body, Plain text body ∧ text = body ++ "\r"
  | _ => True

variable {line line' body body' word : String} {ws : List String} {c : Command}

/-! ### Numbers -/

theorem bind_eq_ok_iff {ε α β : Type} {x : Except ε α} {f : α → Except ε β} {b : β} :
    x >>= f = .ok b ↔ ∃ a, x = .ok a ∧ f a = .ok b := by
  cases x with
  | error e => simp [bind, Except.bind]
  | ok a => simp [bind, Except.bind]

theorem readNumber_eq_ok_iff {max n : Nat} :
    readNumber max word = .ok n ↔ Number.Written word.toList n ∧ n ≤ max := by
  rw [← Number.readNumber_eq_ok_iff, readNumber]
  cases Number.readNumber max word with
  | error e => simp [Except.mapError]
  | ok n => simp [Except.mapError]

/-- Numbers of a type that has all numbers up to `max` are read as they are written. -/
theorem exists_read_iff {α : Type} {max : Nat} (ofNat : Nat → α) (toNat : α → Nat) {a : α}
    (back : ofNat (toNat a) = a) (there : ∀ n ≤ max, toNat (ofNat n) = n) (within : toNat a ≤ max) :
    (∃ n, readNumber max word = .ok n ∧ ofNat n = a) ↔ Number.Written word.toList (toNat a) := by
  constructor
  · rintro ⟨n, read, rfl⟩
    obtain ⟨written, fits⟩ := readNumber_eq_ok_iff.mp read
    rwa [there n fits]
  · exact fun written => ⟨toNat a, readNumber_eq_ok_iff.mpr ⟨written, within⟩, back⟩

theorem readHost_eq_ok_iff {id : HostId} :
    readHost word = .ok id ↔ Number.Written word.toList id.number.toNat := by
  have there (n : Nat) (fits : n ≤ UInt32.size - 1) : (UInt32.ofNat n).toNat = n :=
    UInt32.toNat_ofNat_of_lt' (Nat.lt_of_le_sub_one (by decide) fits)
  rw [← exists_read_iff (fun n => HostId.mk (UInt32.ofNat n)) (·.number.toNat)
    (by simp) there (Nat.le_sub_one_of_lt id.number.toNat_lt), readHost, bind_eq_ok_iff]
  simp [pure, Except.pure]

theorem readSlot_eq_ok_iff {n : UInt64} :
    readSlot word = .ok n ↔ Number.Written word.toList n.toNat ∧ n ≠ 0 := by
  have there (n : Nat) (fits : n ≤ UInt64.size - 1) : (UInt64.ofNat n).toNat = n :=
    UInt64.toNat_ofNat_of_lt' (Nat.lt_of_le_sub_one (by decide) fits)
  rw [← exists_read_iff UInt64.ofNat UInt64.toNat UInt64.ofNat_toNat there
    (Nat.le_sub_one_of_lt n.toNat_lt), readSlot, bind_eq_ok_iff]
  constructor
  · rintro ⟨m, read, made⟩
    split at made
    · cases made
    · rename_i counted
      obtain rfl := Except.ok.inj made
      refine ⟨⟨m, read, rfl⟩, fun zero => counted ?_⟩
      rw [← there m (readNumber_eq_ok_iff.mp read).2, zero]
      rfl
  · rintro ⟨⟨m, read, rfl⟩, counted⟩
    refine ⟨m, read, if_neg fun zero => counted ?_⟩
    rw [zero]
    rfl

theorem readExtent_eq_ok_iff {n : UInt16} :
    readExtent word = .ok n ↔ Number.Written word.toList n.toNat := by
  have there (n : Nat) (fits : n ≤ UInt16.size - 1) : (UInt16.ofNat n).toNat = n :=
    UInt16.toNat_ofNat_of_lt' (Nat.lt_of_le_sub_one (by decide) fits)
  rw [← exists_read_iff UInt16.ofNat UInt16.toNat UInt16.ofNat_toNat there
    (Nat.le_sub_one_of_lt n.toNat_lt), readExtent, bind_eq_ok_iff]
  simp [pure, Except.pure]

/-! ### Words -/

theorem ofWords_eq_ok_iff : ofWords line ws = .ok c ↔ Means ws c := by
  constructor
  · -- One case for each form, in the order of the definition.
    unfold ofWords
    intro read
    split at read
    · obtain rfl := Except.ok.inj read
      exact .hosts
    · obtain ⟨id, number, made⟩ := bind_eq_ok_iff.mp read
      obtain rfl := Except.ok.inj made
      exact .host (readHost_eq_ok_iff.mp number)
    · obtain rfl := Except.ok.inj read
      exact .add
    · obtain ⟨n, number, made⟩ := bind_eq_ok_iff.mp read
      obtain rfl := Except.ok.inj made
      obtain ⟨written, counted⟩ := readSlot_eq_ok_iff.mp number
      exact .slot written counted
    · obtain rfl := Except.ok.inj read
      exact .close
    · obtain ⟨n, number, made⟩ := bind_eq_ok_iff.mp read
      obtain rfl := Except.ok.inj made
      obtain ⟨written, counted⟩ := readSlot_eq_ok_iff.mp number
      exact .closeSlot written counted
    · obtain rfl := Except.ok.inj read
      exact .files
    · obtain rfl := Except.ok.inj read
      exact .root
    · obtain rfl := Except.ok.inj read
      exact .ls _
    · obtain rfl := Except.ok.inj read
      exact .openEntry _ _
    · obtain ⟨cols, width, rest⟩ := bind_eq_ok_iff.mp read
      obtain ⟨rows, height, made⟩ := bind_eq_ok_iff.mp rest
      obtain rfl := Except.ok.inj made
      exact .resize (readExtent_eq_ok_iff.mp width) (readExtent_eq_ok_iff.mp height)
    · cases read
  · intro means
    cases means with
    | hosts | add | close | files | root => rfl
    | ls path => rfl
    | openEntry word more => unfold ofWords; rfl
    | host number =>
      exact bind_eq_ok_iff.mpr ⟨_, readHost_eq_ok_iff.mpr number, rfl⟩
    | slot number counted =>
      exact bind_eq_ok_iff.mpr ⟨_, readSlot_eq_ok_iff.mpr ⟨number, counted⟩, rfl⟩
    | closeSlot number counted =>
      exact bind_eq_ok_iff.mpr ⟨_, readSlot_eq_ok_iff.mpr ⟨number, counted⟩, rfl⟩
    | resize width height =>
      exact bind_eq_ok_iff.mpr ⟨_, readExtent_eq_ok_iff.mpr width,
        bind_eq_ok_iff.mpr ⟨_, readExtent_eq_ok_iff.mpr height, rfl⟩⟩

/-- The line makes no difference, but that it is quoted if the words are those of no command. -/
theorem ofWords_line (line line' : String) (ws : List String) :
    ofWords line' ws = ofWords line ws ∨
      ofWords line ws = .error (.unknown line) ∧ ofWords line' ws = .error (.unknown line') := by
  unfold ofWords
  split
  all_goals first | exact .inl rfl | exact .inr ⟨rfl, rfl⟩

/-! ### Lines -/

theorem withoutLineEnds_eq_iff : withoutLineEnds line = body ↔ Text.Trims isLineEnd line body :=
  Text.trimEnd_eq_iff

theorem Plain.parse_eq (p : Plain line body) : parse line = .ok (keys (body ++ "\r")) := by
  have none : Text.after? ":" body = none :=
    Option.eq_none_iff_forall_ne_some.mpr fun command found =>
      p.plain command (Text.after?_eq_some_iff.mp found)
  rw [parse, withoutLineEnds_eq_iff.mpr p.trims]
  simp only [none]
  rfl

theorem Spells.parse_eq (s : Spells line body ws) : parse line = ofWords body ws := by
  obtain ⟨command, rfl, rfl⟩ := s.words
  have found : Text.after? ":" (":" ++ command) = some command := Text.after?_eq_some_iff.mpr rfl
  rw [parse, withoutLineEnds_eq_iff.mpr s.trims]
  simp only [found]

theorem plain_or_spells (line : String) :
    (∃ body, Plain line body) ∨ ∃ body ws, Spells line body ws := by
  have trims := withoutLineEnds_eq_iff.mp (rfl : withoutLineEnds line = _)
  by_cases colon : ∃ command, withoutLineEnds line = ":" ++ command
  · obtain ⟨command, colon⟩ := colon
    exact .inr ⟨_, _, trims, command, colon, rfl⟩
  · exact .inl ⟨_, trims, not_exists.mp colon⟩

theorem Spells.parse_eq_ok_iff (s : Spells line body ws) : parse line = .ok c ↔ Means ws c := by
  rw [s.parse_eq, ofWords_eq_ok_iff]

theorem words_eq_of_trims {command left : String} (trims : Text.Trims isLineEnd command left) :
    Text.words left = Text.words command := by
  obtain ⟨tail, rfl, ends⟩ := trims.text
  have blank (c : Char) (mem : c ∈ tail.toList) : Text.isBlank c = true := by
    have ending := ends c mem
    simp only [isLineEnd, Bool.or_eq_true, beq_iff_eq] at ending
    obtain rfl | rfl := ending <;> rfl
  rw [Text.words, Text.words, String.toList_append, Text.wordsOf_append_of_blank _ blank]

theorem spells_colon (command : String) :
    ∃ body, Spells (":" ++ command) body (Text.words command) := by
  have trims := withoutLineEnds_eq_iff.mp (rfl : withoutLineEnds command = _)
  have colon (c : Char) (last : ":".toList.getLast? = some c) : isLineEnd c = false := by
    obtain rfl : ':' = c := Option.some.inj last
    rfl
  exact ⟨_, trims.append (.inr colon), _, rfl, words_eq_of_trims trims⟩

/-- Line ends are white space, so they may stand behind any command. -/
theorem parse_colon_iff (command : String) :
    parse (":" ++ command) = .ok c ↔ Means (Text.words command) c := by
  obtain ⟨body, spells⟩ := spells_colon command
  exact spells.parse_eq_ok_iff

/-! ### Lines for commands -/

theorem isWord_decimal (n : Nat) : Text.IsWord (Number.decimal n).toList := by
  obtain ⟨d, ds, digits, -⟩ := Number.exists_decimal_eq_cons n
  exact ⟨by simp [digits], fun c mem => Text.isBlank_of_isDigit (Number.isDigit_of_mem_decimal mem)⟩

/-- A word and numbers behind it are read as they stand. -/
theorem parse_numbers_iff (verb : String) (lead : Text.IsWord verb.toList) (ns : List Nat) :
    parse (":" ++ " ".intercalate (verb :: ns.map Number.decimal)) = .ok c ↔
      Means (verb :: ns.map Number.decimal) c := by
  have all : ∀ w ∈ verb :: ns.map Number.decimal, Text.IsWord w.toList := by
    refine List.forall_mem_cons.mpr ⟨lead, fun w mem => ?_⟩
    obtain ⟨n, -, rfl⟩ := List.mem_map.mp mem
    exact isWord_decimal n
  rw [parse_colon_iff, Text.words_intercalate all]

theorem Means.slot_ne_zero {n : UInt64} (means : Means ws (.slot n)) : n ≠ 0 := by
  cases means with
  | slot _ counted => exact counted

theorem Means.close_ne_zero {n : UInt64} (means : Means ws (.close (some n))) : n ≠ 0 := by
  cases means with
  | closeSlot _ counted => exact counted

theorem parse_ls_iff (path : String) :
    parse (ls path).rendering = .ok (ls path) ↔ Text.IsWord path.toList := by
  have lead : Text.IsWord "ls".toList := by decide
  rw [show (ls path).rendering = ":" ++ ("ls" ++ " " ++ path) from rfl, parse_colon_iff,
    Text.words_lead lead, ← Text.words_eq_singleton_iff]
  constructor
  · intro means
    generalize form : "ls" :: Text.words path = ws at means
    cases means with
    | root => exact absurd (List.tail_eq_of_cons_eq form) (by decide)
    | ls path => exact List.tail_eq_of_cons_eq form
  · intro one
    rw [one]
    exact .ls path

theorem parse_openEntry_iff (name : String) :
    parse (openEntry name).rendering = .ok (openEntry name) ↔
      name ≠ "" ∧ Text.SingleSpaced name := by
  have lead : Text.IsWord "open".toList := by decide
  rw [show (openEntry name).rendering = ":" ++ ("open" ++ " " ++ name) from rfl, parse_colon_iff,
    Text.words_lead lead, ← Text.intercalate_words_eq_iff]
  constructor
  · intro means
    generalize form : "open" :: Text.words name = ws at means
    cases means with
    | openEntry word more =>
      have words := List.tail_eq_of_cons_eq form
      refine ⟨fun none => ?_, by rw [words]⟩
      rw [none] at words
      cases words
  · rintro ⟨some, same⟩
    cases words : Text.words name with
    | nil =>
      rw [words] at same
      exact absurd same.symm some
    | cons word more =>
      have means := Means.openEntry word more
      rwa [← words, same, words] at means

theorem parse_keys_iff (text : String) :
    parse text = .ok (keys text) ↔ ∃ body, Plain text body ∧ text = body ++ "\r" := by
  constructor
  · intro read
    rcases plain_or_spells text with ⟨body, plain⟩ | ⟨body, ws, spells⟩
    · rw [plain.parse_eq] at read
      exact ⟨body, plain, (keys.inj (Except.ok.inj read)).symm⟩
    · cases spells.parse_eq_ok_iff.mp read
  · rintro ⟨body, plain, same⟩
    rw [plain.parse_eq, ← same]

theorem parse_rendering_eq_ok_iff (c : Command) : parse c.rendering = .ok c ↔ c.Writable := by
  cases c with
  | hosts => exact iff_of_true ((parse_numbers_iff "hosts" (by decide) []).mpr .hosts) trivial
  | add => exact iff_of_true ((parse_numbers_iff "add" (by decide) []).mpr .add) trivial
  | files => exact iff_of_true ((parse_numbers_iff "files" (by decide) []).mpr .files) trivial
  | host id =>
    have read := parse_numbers_iff (c := host id) "host" (by decide) [id.number.toNat]
    exact iff_of_true (read.mpr (.host (Number.written_decimal id.number.toNat))) trivial
  | slot n =>
    refine (parse_numbers_iff "slot" (by decide) [n.toNat]).trans ⟨Means.slot_ne_zero, ?_⟩
    exact .slot (Number.written_decimal _)
  | close n =>
    cases n with
    | none => exact iff_of_true ((parse_numbers_iff "close" (by decide) []).mpr .close) trivial
    | some n =>
      refine (parse_numbers_iff "close" (by decide) [n.toNat]).trans ⟨Means.close_ne_zero, ?_⟩
      exact .closeSlot (Number.written_decimal _)
  | resize size =>
    have read := parse_numbers_iff (c := resize size) "resize" (by decide)
      [size.cols.toNat, size.rows.toNat]
    have means := Means.resize (Number.written_decimal size.cols.toNat)
      (Number.written_decimal size.rows.toNat)
    exact iff_of_true (read.mpr means) trivial
  | ls path => exact parse_ls_iff path
  | openEntry name => exact parse_openEntry_iff name
  | keys text => exact parse_keys_iff text

/-- Every line is typed text or has words behind a colon. Typed text is sent with a carriage return
in place of its line ends. Otherwise the line is a command exactly if its words mean it, and lines
with the same words are read alike, but that each is quoted if its words mean nothing. A command is
read back from its line exactly if it can be written at all. -/
theorem parse_meaning :
    (∀ line, (∃ body, Plain line body) ∨ ∃ body ws, Spells line body ws) ∧
    (∀ line body, Plain line body → parse line = .ok (keys (body ++ "\r"))) ∧
    (∀ line body ws, Spells line body ws →
      (∀ c, parse line = .ok c ↔ Means ws c) ∧
      ∀ line' body', Spells line' body' ws →
        parse line' = parse line ∨
          parse line = .error (.unknown body) ∧ parse line' = .error (.unknown body')) ∧
    ∀ c : Command, parse c.rendering = .ok c ↔ c.Writable := by
  refine ⟨plain_or_spells, fun line body plain => plain.parse_eq, fun line body ws spells =>
    ⟨fun c => spells.parse_eq_ok_iff, fun line' body' spells' => ?_⟩, parse_rendering_eq_ok_iff⟩
  rw [spells.parse_eq, spells'.parse_eq]
  exact ofWords_line body body' ws

theorem parse_meaning_of_loose_lines :
    parse ":\u00a0slot\t+007 \r\n" = .ok (slot 7) ∧
    parse ":slot +007" = parse ":\u00a0slot\t+007 \r\n" ∧
    parse "ls -l\n" = .ok (keys "ls -l\r") ∧
    parse (openEntry "my file.txt").rendering = .ok (openEntry "my file.txt") := by
  obtain ⟨-, typed, spelled, written⟩ := parse_meaning
  have loose : Spells ":\u00a0slot\t+007 \r\n" ":\u00a0slot\t+007 " ["slot", "+007"] :=
    ⟨Text.trimEnd_eq_iff.mp (by decide +kernel), "\u00a0slot\t+007 ", rfl, by decide +kernel⟩
  have tight : Spells ":slot +007" ":slot +007" ["slot", "+007"] :=
    ⟨Text.trimEnd_eq_iff.mp (by decide +kernel), "slot +007", rfl, by decide +kernel⟩
  have seven : Number.Written "+007".toList 7 :=
    .signed (List.cons_ne_nil _ _) ⟨List.all_eq_true.mp rfl, by decide⟩
  have read := ((spelled _ _ _ loose).1 (slot 7)).mpr (.slot seven (by decide))
  have alike := ((spelled _ _ _ loose).2 _ _ tight).resolve_right fun ⟨unknown, _⟩ => by
    rw [read] at unknown
    cases unknown
  have none : Text.after? ":" "ls -l" = none := by decide +kernel
  have command (rest : String) (same : "ls -l" = ":" ++ rest) : False := by
    rw [Text.after?_eq_some_iff.mpr same] at none
    cases none
  have plain : Plain "ls -l\n" "ls -l" := ⟨Text.trimEnd_eq_iff.mp (by decide +kernel), command⟩
  exact ⟨read, alike, typed _ _ plain, (written _).mpr ⟨by decide, by decide⟩⟩

/-- The line of slot zero is none, that of an empty path is the line of another command, and what is
said about words that mean nothing depends on the space between them. -/
theorem zero_slot_not_read :
    parse (slot 0).rendering = .error .slotZero ∧ parse (ls "").rendering = .ok (ls "/") ∧
    Text.words "frob  x" = Text.words "frob x" ∧ parse ":frob  x" ≠ parse ":frob x" := by
  decide +kernel

end Switchboard.Command
