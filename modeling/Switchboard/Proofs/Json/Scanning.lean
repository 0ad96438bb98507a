import Switchboard.Json.Reader
import Switchboard.Proofs.Json.Quoting
import Switchboard.Proofs.Number.Digits

/-!
# The tokens of a written value

A value is written as the texts of its tokens, and the scanner cuts them apart again:
`Value.Fits.lexes`.
-/

namespace Switchboard.Json

variable {c : Char} {cs cs' rest : List Char} {t : Token} {ts ts' : List Token} {limit n : Nat}

/-! ### Numbers -/

/-- Whether a character may go on with a number. -/
def continuesNumber (c : Char) : Bool := c.isDigit || c == '.' || c == 'e' || c == 'E'

/-- What follows a token does not go on with a number. -/
def Ends (rest : List Char) : Prop := ∀ c ∈ rest.head?, continuesNumber c = false

theorem ends_nil : Ends [] := fun _ mem => nomatch mem

theorem ends_cons (ends : continuesNumber c = false) : Ends (c :: rest) := by
  intro x mem
  obtain rfl := Option.mem_some.mp mem
  exact ends

theorem Ends.isDigit (ends : Ends rest) : ∀ c ∈ rest.head?, c.isDigit = false := by
  intro c mem
  have stops := ends c mem
  simp only [continuesNumber, Bool.or_eq_false_iff] at stops
  exact stops.1.1.1

theorem spanDigits_append (digits : ∀ c ∈ cs, c.isDigit = true)
    (stops : ∀ c ∈ rest.head?, c.isDigit = false) : spanDigits (cs ++ rest) = (cs, rest) := by
  have none : rest.takeWhile Char.isDigit = [] ∧ rest.dropWhile Char.isDigit = rest := by
    cases rest with
    | nil => exact ⟨rfl, rfl⟩
    | cons c rest =>
      have stop := stops c rfl
      simp [stop]
  rw [spanDigits, List.takeWhile_append_of_pos digits, List.dropWhile_append_of_pos digits, none.1,
    none.2, List.append_nil]

theorem readWhole?_decimal (ends : Ends rest) (n : Nat) :
    readWhole? ((Number.decimal n).toList ++ rest) = some ((Number.decimal n).toList, rest) := by
  have span := spanDigits_append (fun _ => Number.isDigit_of_mem_decimal (n := n)) ends.isDigit
  obtain ⟨d, ds, digits, _, leads⟩ := Number.exists_decimal_eq_cons n
  rw [digits] at span ⊢
  unfold readWhole?
  rw [span]
  cases ds with
  | nil => by_cases zero : d = '0' <;> simp [zero]
  | cons d' ds =>
    have notZero : d ≠ '0' := fun zero => nomatch leads zero
    simp [notZero]

/-- A word written in decimal is read as a number, if no more of a number follows. -/
theorem read?_decimal (ends : Ends rest) (word : n ≤ maxWord) :
    Numeral.read? ((Number.decimal n).toList ++ rest) = some (.natural n, rest) := by
  have whole := readWhole?_decimal ends n
  have digits := Number.readDigits_decimal word
  obtain ⟨d, ds, digits', digit, _⟩ := Number.exists_decimal_eq_cons n
  have minus : readMinus ((Number.decimal n).toList ++ rest) =
      (false, (Number.decimal n).toList ++ rest) := by
    have notMinus : d ≠ '-' := by
      rintro rfl
      cases digit
    simp [digits', readMinus, notMinus]
  have fraction : readFraction? rest = some (none, rest) := by
    cases rest with
    | nil => rfl
    | cons c rest =>
      have stop := ends c rfl
      have notPoint : c ≠ '.' := by
        rintro rfl
        cases stop
      simp [readFraction?, notPoint]
  have exponent : readExponent? rest = some (none, rest) := by
    cases rest with
    | nil => rfl
    | cons c rest =>
      have stop := ends c rfl
      have notMark : ¬ (c = 'e' ∨ c = 'E') := by
        rintro (rfl | rfl) <;> cases stop
      simp [readExponent?, notMark]
  simp [Numeral.read?, NumeralParts.read?, minus, whole, fraction, exponent,
    NumeralParts.numeral?, digits]

/-! ### Values and their tokens -/

mutual

def Value.tokens : Value → List Token
  | .null => [.null]
  | .bool b => [.bool b]
  | .number n => [.number n]
  | .text s => [.text s]
  | .array [] => [.openBracket, .closeBracket]
  | .array (v :: vs) => .openBracket :: Value.tokens v ++ itemTokens vs
  | .object [] => [.openBrace, .closeBrace]
  | .object ((key, v) :: ms) =>
    .openBrace :: .text key :: .colon :: Value.tokens v ++ memberTokens ms

def itemTokens : List Value → List Token
  | [] => [.closeBracket]
  | v :: vs => .comma :: Value.tokens v ++ itemTokens vs

def memberTokens : List (String × Value) → List Token
  | [] => [.closeBrace]
  | (key, v) :: ms => .comma :: .text key :: .colon :: Value.tokens v ++ memberTokens ms

end

/-- The numbers of a value are words, and at most `depth` containers lie inside each other. -/
inductive Value.Fits : Nat → Value → Prop where
  | null {depth : Nat} : Fits depth .null
  | bool {depth : Nat} (b : Bool) : Fits depth (.bool b)
  | number {depth n : Nat} (word : n ≤ maxWord) : Fits depth (.number (.natural n))
  | text {depth : Nat} (s : String) : Fits depth (.text s)
  | array {depth : Nat} {items : List Value} (inside : ∀ v ∈ items, Fits depth v) :
      Fits (depth + 1) (.array items)
  | object {depth : Nat} {members : List (String × Value)}
      (inside : ∀ m ∈ members, Fits depth m.2) : Fits (depth + 1) (.object members)

/-- The scanner cuts `cs` into `ts`, whatever comes after. -/
structure Lexes (cs : List Char) (ts : List Token) : Prop where
  short : ts.length ≤ cs.length
  scan : ∀ limit rest, Ends rest → Token.scanUpTo? (limit + ts.length) (cs ++ rest) =
    (Token.scanUpTo? limit rest).map (ts ++ ·)

theorem scanUpTo?_of_read? (solid : isSpace c = false)
    (read : Token.read? (c :: cs) = some (t, rest)) (limit : Nat) :
    Token.scanUpTo? (limit + 1) (c :: cs) = (Token.scanUpTo? limit rest).map (t :: ·) := by
  simp [Token.scanUpTo?, solid, read]

theorem scanUpTo?_nil (limit : Nat) : Token.scanUpTo? limit [] = some [] := by
  cases limit <;> simp [Token.scanUpTo?]

namespace Lexes

theorem nil : Lexes [] [] := ⟨Nat.le_refl 0, fun limit rest _ => by simp⟩

theorem token (solid : isSpace c = false)
    (read : ∀ rest, Ends rest → Token.read? (c :: cs ++ rest) = some (t, rest)) :
    Lexes (c :: cs) [t] where
  short := by simp
  scan limit rest ends := scanUpTo?_of_read? solid (read rest ends) limit

theorem append (first : Lexes cs ts) (second : Lexes cs' ts')
    (apart : ∀ rest, Ends (cs' ++ rest)) : Lexes (cs ++ cs') (ts ++ ts') where
  short := by
    have := first.short
    have := second.short
    simp only [List.length_append]
    omega
  scan limit rest ends := by
    rw [List.append_assoc, List.length_append, Nat.add_comm ts.length, ← Nat.add_assoc,
      first.scan _ _ (apart rest), second.scan _ _ ends, Option.map_map]
    congr 1
    funext more
    exact (List.append_assoc ts ts' more).symm

/-- A mark of punctuation is a token, whatever comes after. -/
theorem mark (punctuation : punctuation? c = some t) (rest : Lexes cs ts) :
    Lexes (c :: cs) (t :: ts) := by
  have read : ∀ more, isSpace c = false ∧ Token.read? (c :: more) = some (t, more) := by
    intro more
    unfold punctuation? at punctuation
    split at punctuation <;> cases punctuation <;> exact ⟨rfl, rfl⟩
  refine ⟨Nat.succ_le_succ rest.short, fun limit more ends => ?_⟩
  obtain ⟨solid, read⟩ := read (cs ++ more)
  rw [List.cons_append, List.length_cons, ← Nat.add_assoc, scanUpTo?_of_read? solid read,
    rest.scan _ _ ends, Option.map_map]
  rfl

theorem quoted (s : String) : Lexes (quote s) [.text s] :=
  token rfl fun rest _ => read?_quote s rest

theorem scan? (l : Lexes cs ts) : Token.scan? cs = some ts := by
  have scanned := l.scan (cs.length - ts.length) [] ends_nil
  rw [Nat.sub_add_cancel l.short, scanUpTo?_nil, List.append_nil] at scanned
  simpa [Token.scan?] using scanned

end Lexes

/-! ### Written values -/

theorem ends_writeItems (vs : List Value) (rest : List Char) : Ends (writeItems vs ++ rest) := by
  cases vs with
  | nil => exact ends_cons (by decide)
  | cons v vs => exact ends_cons (by decide)

theorem ends_writeMembers (ms : Members) (rest : List Char) : Ends (writeMembers ms ++ rest) := by
  cases ms with
  | nil => exact ends_cons (by decide)
  | cons m ms => exact ends_cons (by decide)

theorem lexes_items {vs : List Value} (each : ∀ v ∈ vs, Lexes v.write v.tokens) :
    Lexes (writeItems vs) (itemTokens vs) := by
  induction vs with
  | nil => exact .mark rfl .nil
  | cons v vs ih =>
    obtain ⟨first, others⟩ := List.forall_mem_cons.mp each
    exact .mark rfl (first.append (ih others) (ends_writeItems vs))

theorem lexes_member (key : String) {v : Value} (value : Lexes v.write v.tokens) :
    Lexes (quote key ++ ':' :: v.write) (.text key :: .colon :: v.tokens) :=
  (Lexes.quoted key).append (.mark rfl value) fun _ => ends_cons (by decide)

theorem lexes_members {ms : Members} (each : ∀ m ∈ ms, Lexes m.2.write m.2.tokens) :
    Lexes (writeMembers ms) (memberTokens ms) := by
  induction ms with
  | nil => exact .mark rfl .nil
  | cons m ms ih =>
    obtain ⟨key, v⟩ := m
    obtain ⟨first, others⟩ := List.forall_mem_cons.mp each
    exact .mark rfl ((lexes_member key first).append (ih others) (ends_writeMembers ms))

theorem isSpace_of_isDigit (digit : c.isDigit = true) : isSpace c = false := by
  cases space : isSpace c with
  | false => rfl
  | true =>
    simp only [isSpace, Bool.or_eq_true, beq_iff_eq] at space
    rcases space with ((rfl | rfl) | rfl) | rfl <;> cases digit

theorem read?_of_isDigit (digit : c.isDigit = true) (cs : List Char) :
    Token.read? (c :: cs) = (Numeral.read? (c :: cs)).map fun (n, rest) => (.number n, rest) := by
  have unmarked : punctuation? c = none := by
    unfold punctuation?
    split
    case h_7 => rfl
    all_goals cases digit
  unfold Token.read?
  split <;> simp_all

theorem lexes_decimal (word : n ≤ maxWord) :
    Lexes (Number.decimal n).toList [.number (.natural n)] := by
  obtain ⟨d, ds, digits, digit, _⟩ := Number.exists_decimal_eq_cons n
  have read : ∀ rest, Ends rest →
      Token.read? (d :: ds ++ rest) = some (.number (.natural n), rest) := by
    intro rest ends
    have numeral := read?_decimal ends word
    rw [digits] at numeral
    rw [List.cons_append] at numeral ⊢
    rw [read?_of_isDigit digit, numeral, Option.map_some]
  rw [digits]
  exact .token (isSpace_of_isDigit digit) read

/-- What is written of a value are its tokens. -/
theorem Value.Fits.lexes {depth : Nat} {v : Value} (fits : v.Fits depth) :
    Lexes v.write v.tokens := by
  induction fits with
  | null => exact .token rfl fun _ _ => rfl
  | bool b => cases b <;> exact .token rfl fun _ _ => rfl
  | number word => exact lexes_decimal word
  | text s => exact .quoted s
  | @array _ items _ ih =>
    cases items with
    | nil => exact .mark rfl (.mark rfl .nil)
    | cons v vs =>
      obtain ⟨first, others⟩ := List.forall_mem_cons.mp ih
      exact .mark rfl (first.append (lexes_items others) (ends_writeItems vs))
  | @object _ members _ ih =>
    cases members with
    | nil => exact .mark rfl (.mark rfl .nil)
    | cons m ms =>
      obtain ⟨key, v⟩ := m
      obtain ⟨first, others⟩ := List.forall_mem_cons.mp ih
      exact .mark rfl
        ((lexes_member key first).append (lexes_members others) (ends_writeMembers ms))

end Switchboard.Json
