import Switchboard.Json.Token
import Switchboard.Json.Writer

/-!
# Quoted texts

A text that is written between quotes is read back, character by character, and nothing that is
written is a control character.
-/

namespace Switchboard.Json

theorem hexValue?_hexDigit {n : Nat} (small : n < 16) : hexValue? (hexDigit n) = some n := by
  have all : ∀ n < 16, hexValue? (hexDigit n) = some n := by decide
  exact all n small

theorem le_toNat_hexDigit {n : Nat} (small : n < 16) : 0x20 ≤ (hexDigit n).toNat := by
  have all : ∀ n < 16, 0x20 ≤ (hexDigit n).toNat := by decide
  exact all n small

theorem hexUnit?_control {c : Char} (control : c.toNat < 0x20) :
    hexUnit? '0' '0' (hexDigit (c.toNat / 16)) (hexDigit (c.toNat % 16)) = some c.toNat := by
  have zero : hexValue? '0' = some 0 := by decide
  have high := hexValue?_hexDigit (n := c.toNat / 16) (by omega)
  have low := hexValue?_hexDigit (n := c.toNat % 16) (by omega)
  simp only [hexUnit?, zero, high, low, Option.bind_eq_bind, Option.bind_some, Option.pure_def]
  congr 1
  omega

/-- The ways in which a character is written. -/
inductive Escaped (c : Char) : List Char → Prop where
  | short {e : Char} (means : simpleEscape? e = some c) (visible : 0x20 ≤ e.toNat) :
      Escaped c ['\\', e]
  | unit (control : c.toNat < 0x20) :
      Escaped c ['\\', 'u', '0', '0', hexDigit (c.toNat / 16), hexDigit (c.toNat % 16)]
  | plain (backslash : c ≠ '\\') (quote : c ≠ '"') (visible : 0x20 ≤ c.toNat) : Escaped c [c]

theorem escaped_escapeChar (c : Char) : Escaped c (escapeChar c) := by
  unfold escapeChar
  iterate 7
    split
    · subst_vars
      exact .short rfl (by decide)
  split
  · rename_i control
    exact .unit control
  · rename_i quote backslash _ _ _ _ _ visible
    exact .plain backslash quote (Nat.le_of_not_lt visible)

/-- What is written for a character is read as that character. -/
theorem readText?_escapeChar (c : Char) (rest : List Char) :
    readText? (escapeChar c ++ rest) = (readText? rest).map fun (cs, r) => (c :: cs, r) := by
  have written := escaped_escapeChar c
  generalize escapeChar c = cs at written
  cases written with
  | @short e means =>
    have notUnit : e ≠ 'u' := by
      rintro rfl
      cases means
    simp [readText?, means, notUnit]
  | unit control =>
    have high : isHighSurrogate c.toNat = false := by
      simp only [isHighSurrogate, Bool.and_eq_false_iff, decide_eq_false_iff_not]
      omega
    have low : isLowSurrogate c.toNat = false := by
      simp only [isLowSurrogate, Bool.and_eq_false_iff, decide_eq_false_iff_not]
      omega
    simp [readText?, hexUnit?_control control, high, low]
  | plain backslash quote visible =>
    simp [readText?, backslash, Nat.not_lt.mpr visible]

theorem readText?_escaped (cs rest : List Char) :
    readText? (cs.flatMap escapeChar ++ '"' :: rest) = some (cs, rest) := by
  induction cs with
  | nil => simp [readText?]
  | cons c cs ih =>
    rw [List.flatMap_cons, List.append_assoc, readText?_escapeChar, ih, Option.map_some]

theorem read?_quote (s : String) (rest : List Char) :
    Token.read? (quote s ++ rest) = some (.text s, rest) := by
  have read := readText?_escaped s.toList rest
  simp [quote, Token.read?, read]

theorem visible_of_mem_quote {s : String} {c : Char} (mem : c ∈ quote s) : 0x20 ≤ c.toNat := by
  have visible : ∀ x : Char, ∀ c ∈ escapeChar x, 0x20 ≤ c.toNat := by
    intro x
    have written := escaped_escapeChar x
    generalize escapeChar x = cs at written
    cases written with
    | short _ visible => simpa using visible
    | unit control =>
      have high := le_toNat_hexDigit (n := x.toNat / 16) (by omega)
      have low := le_toNat_hexDigit (n := x.toNat % 16) (by omega)
      simpa using ⟨high, low⟩
    | plain _ _ visible => simpa using visible
  simp only [quote, List.mem_append, List.mem_cons, List.mem_flatMap, List.not_mem_nil,
    or_false] at mem
  rcases mem with (rfl | ⟨x, _, inside⟩) | rfl
  · decide
  · exact visible x c inside
  · decide

end Switchboard.Json
