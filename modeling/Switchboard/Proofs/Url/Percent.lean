import Mathlib.Data.List.Basic
import Switchboard.Proofs.Text.Utf8
import Switchboard.Url.Percent

/-!
# Reading percent-encoded text

`decode_encode`: encoding a text does not change what it is read as. But a percent sign is no
character that is encoded, so a text that already has escapes in it is not read as itself
(`decode_eq_self_iff`).
-/

namespace Switchboard.Url

open Text

variable {α : Type} {set : EncodeSet} {c : Char} {cs : List Char} {bs : Bytes} {byte : UInt8}

/-! ### Two hexadecimal digits -/

/-- The byte that two hexadecimal digits at the head of a run stand for. -/
def pairBy? (hex : α → Option Nat) : List α → Option UInt8
  | a :: b :: _ => do
    let high ← hex a
    let low ← hex b
    return UInt8.ofNat (high * 16 + low)
  | _ => none

abbrev pair? : List Char → Option UInt8 := pairBy? hexValue?

def byteHex? (b : UInt8) : Option Nat := hexValue? (Char.ofNat b.toNat)

theorem hexValue?_eq_none_of_le (beyond : 0x80 ≤ c.toNat) : hexValue? c = none := by
  have above (d : Char) (ascii : d.toNat < 0x80) : ¬ c ≤ d := by
    rw [Char.le_def, UInt32.le_iff_toNat_le]
    exact Nat.not_le_of_lt (Nat.lt_of_lt_of_le ascii beyond)
  unfold hexValue?
  rw [if_neg fun range => above '9' (by decide) range.2,
    if_neg fun range => above 'F' (by decide) range.2,
    if_neg fun range => above 'f' (by decide) range.2]

theorem byteHex?_ofNat (ascii : c.toNat < 0x80) : byteHex? (UInt8.ofNat c.toNat) = hexValue? c := by
  have value : (UInt8.ofNat c.toNat).toNat = c.toNat := by
    rw [UInt8.toNat_ofNat']
    omega
  rw [byteHex?, value, Char.ofNat_toNat]

theorem byteHex?_eq_none_of_le (beyond : 0x80 ≤ byte.toNat) : byteHex? byte = none := by
  have valid : byte.toNat.isValidChar := .inl (Nat.lt_trans byte.toNat_lt (by decide))
  have value : (Char.ofNat byte.toNat).toNat = byte.toNat := by
    unfold Char.ofNat
    rw [dif_pos valid]
    rfl
  exact hexValue?_eq_none_of_le (value.symm ▸ beyond)

theorem hexValue?_hexDigit {n : Nat} (small : n < 16) : hexValue? (hexDigit n) = some n := by
  have all : ∀ n < 16, hexValue? (hexDigit n) = some n := by decide
  exact all n small

theorem pairBy?_of_none {hex : α → Option Nat} {x : α} (other : hex x = none) (xs : List α) :
    pairBy? hex (x :: xs) = none := by
  cases xs with
  | nil => rfl
  | cons y ys => rw [pairBy?, other]; rfl

theorem exists_of_pair? (pair : pair? cs = some byte) :
    ∃ a b rest, cs = a :: b :: rest ∧ hexValue? a ≠ none ∧ hexValue? b ≠ none := by
  rcases cs with _ | ⟨a, _ | ⟨b, rest⟩⟩
  · cases pair
  · cases pair
  · obtain ⟨high, first, pair⟩ := Option.bind_eq_some_iff.mp pair
    obtain ⟨low, second, -⟩ := Option.bind_eq_some_iff.mp pair
    refine ⟨a, b, rest, rfl, ?_, ?_⟩
    · rw [first]
      exact Option.some_ne_none high
    · rw [second]
      exact Option.some_ne_none low

/-- A way to write characters in which a hexadecimal digit stays one, alone, and whatever else is
written does not begin with one. -/
def Faithful (hex : α → Option Nat) (write : Char → List α) : Prop :=
  ∀ c, ∃ x xs, write c = x :: xs ∧ hex x = hexValue? c ∧ (xs = [] ∨ hexValue? c = none)

theorem Faithful.pairBy?_flatMap {hex : α → Option Nat} {write : Char → List α}
    (faithful : Faithful hex write) (cs : List Char) :
    pairBy? hex (cs.flatMap write) = pair? cs := by
  cases cs with
  | nil => rfl
  | cons a cs =>
    obtain ⟨x, xs, written, first, alone⟩ := faithful a
    rw [List.flatMap_cons, written, List.cons_append]
    by_cases other : hexValue? a = none
    · rw [pair?, pairBy?_of_none other, pairBy?_of_none (first.trans other)]
    · obtain rfl : xs = [] := alone.resolve_right other
      cases cs with
      | nil => rfl
      | cons b cs =>
        obtain ⟨y, ys, written', second, -⟩ := faithful b
        rw [List.flatMap_cons, written', List.nil_append, List.cons_append]
        simp only [pair?, pairBy?, first, second]

theorem Faithful.drop_flatMap {hex : α → Option Nat} {write : Char → List α}
    (faithful : Faithful hex write) (pair : pair? cs = some byte) :
    (cs.flatMap write).drop 2 = (cs.drop 2).flatMap write := by
  obtain ⟨a, b, rest, rfl, high, low⟩ := exists_of_pair? pair
  obtain ⟨x, xs, first, -, alone⟩ := faithful a
  obtain ⟨y, ys, second, -, alone'⟩ := faithful b
  obtain rfl := alone.resolve_right high
  obtain rfl := alone'.resolve_right low
  rw [List.flatMap_cons, List.flatMap_cons, first, second]
  rfl

/-! ### Reading bytes -/

theorem faithful_utf8 : Faithful byteHex? String.utf8EncodeChar := by
  intro c
  by_cases ascii : c.toNat < 0x80
  · exact ⟨_, [], utf8EncodeChar_of_lt ascii, byteHex?_ofNat ascii, .inl rfl⟩
  · have beyond : 0x80 ≤ c.toNat := Nat.le_of_not_lt ascii
    obtain ⟨x, xs, bytes⟩ := List.exists_cons_of_length_pos (length_utf8EncodeChar_pos c)
    have first : x ∈ String.utf8EncodeChar c := bytes ▸ List.mem_cons_self
    have none_first := byteHex?_eq_none_of_le (le_of_mem_utf8EncodeChar beyond first)
    have none_char := hexValue?_eq_none_of_le beyond
    exact ⟨x, xs, bytes, none_first.trans none_char.symm, .inr none_char⟩

theorem decode_of_length_lt (short : bs.length < 3) : decode bs = bs := by
  rw [decode]
  rintro p a b rest rfl
  simp only [List.length_cons] at short
  omega

theorem decode_cons_of_ne (other : byte ≠ percentSign) (rest : Bytes) :
    decode (byte :: rest) = byte :: decode rest := by
  rcases rest with _ | ⟨a, _ | ⟨b, rest⟩⟩
  · simp (disch := simp) only [decode_of_length_lt]
  · simp (disch := simp) only [decode_of_length_lt]
  · rw [decode, if_neg other]

theorem decode_percent (rest : Bytes) :
    decode (percentSign :: rest) =
      match pairBy? byteHex? rest with
      | some byte => byte :: decode (rest.drop 2)
      | none => percentSign :: decode rest := by
  rcases rest with _ | ⟨a, _ | ⟨b, rest⟩⟩
  · simp (disch := simp) only [decode_of_length_lt]
    rfl
  · simp (disch := simp) only [decode_of_length_lt]
    rfl
  · rw [decode, if_pos rfl]
    rfl

theorem decode_append_of_not_mem {front : Bytes} (absent : percentSign ∉ front) (rest : Bytes) :
    decode (front ++ rest) = front ++ decode rest := by
  induction front with
  | nil => rfl
  | cons b front ih =>
    obtain ⟨other, later⟩ := List.ne_and_not_mem_of_not_mem_cons absent
    rw [List.cons_append, decode_cons_of_ne (Ne.symm other), ih later, List.cons_append]

theorem length_decode_le (bs : Bytes) : (decode bs).length ≤ bs.length := by
  match bs with
  | [] => exact Nat.le_of_eq (congrArg List.length (decode_of_length_lt (by decide)))
  | b :: rest =>
    have whole := length_decode_le rest
    have later := length_decode_le (rest.drop 2)
    rw [List.length_drop] at later
    by_cases percent : b = percentSign
    · rw [percent, decode_percent]
      split
      · rw [List.length_cons, List.length_cons]
        omega
      · exact Nat.succ_le_succ whole
    · rw [decode_cons_of_ne percent]
      exact Nat.succ_le_succ whole
termination_by bs.length
decreasing_by
  · exact Nat.lt_succ_self _
  · simp only [List.length_drop, List.length_cons]; omega

/-! ### Reading characters -/

theorem percentSign_not_mem (other : c ≠ '%') : percentSign ∉ String.utf8EncodeChar c := by
  intro mem
  by_cases ascii : c.toNat < 0x80
  · rw [utf8EncodeChar_of_lt ascii, List.mem_singleton] at mem
    have number := congrArg UInt8.toNat mem
    rw [UInt8.toNat_ofNat', Nat.mod_eq_of_lt (by omega)] at number
    exact other (Char.toNat_inj.mp number.symm)
  · have beyond := le_of_mem_utf8EncodeChar (Nat.le_of_not_lt ascii) mem
    exact absurd beyond (by decide)

theorem decode_utf8_cons (other : c ≠ '%') (cs : List Char) :
    decode (utf8 (c :: cs)) = String.utf8EncodeChar c ++ decode (utf8 cs) :=
  decode_append_of_not_mem (percentSign_not_mem other) _

theorem decode_utf8_percent (cs : List Char) :
    decode (utf8 ('%' :: cs)) =
      match pair? cs with
      | some byte => byte :: decode (utf8 (cs.drop 2))
      | none => percentSign :: decode (utf8 cs) := by
  have sign : utf8 ('%' :: cs) = percentSign :: utf8 cs := rfl
  rw [sign, decode_percent, utf8, faithful_utf8.pairBy?_flatMap]
  split
  · rename_i byte pair
    rw [faithful_utf8.drop_flatMap pair, utf8]
  · rfl

/-! ### Reading what was encoded -/

/-- A set in which an escape has no part. -/
def EncodeSet.Spares (set : EncodeSet) : Prop :=
  set '%' = false ∧ ∀ c, set c = true → hexValue? c = none

theorem spares_query : EncodeSet.query.Spares := by
  have all : ∀ n < 0x80, EncodeSet.query (Char.ofNat n) = true →
      hexValue? (Char.ofNat n) = none := by decide
  refine ⟨by decide, fun c member => ?_⟩
  by_cases ascii : c.toNat < 0x80
  · rw [← Char.ofNat_toNat c] at member ⊢
    exact all _ ascii member
  · exact hexValue?_eq_none_of_le (Nat.le_of_not_lt ascii)

theorem spares_specialQuery : EncodeSet.specialQuery.Spares := by
  refine ⟨by decide, fun c member => ?_⟩
  obtain member | quote := Bool.or_eq_true_iff.mp member
  · exact spares_query.2 c member
  · rw [eq_of_beq quote]
    decide

theorem faithful_encodeChar (spares : set.Spares) : Faithful hexValue? (encodeChar set) := by
  intro c
  unfold encodeChar
  split
  · rename_i member
    obtain ⟨b, bs, bytes⟩ := List.exists_cons_of_length_pos (length_utf8EncodeChar_pos c)
    have other := spares.2 c member
    rw [bytes]
    exact ⟨'%', _, rfl, other.symm ▸ by decide, .inr other⟩
  · exact ⟨c, [], rfl, rfl, .inl rfl⟩

theorem decode_encodeByte (b : UInt8) (cs : List Char) :
    decode (utf8 (encodeByte b ++ cs)) = b :: decode (utf8 cs) := by
  have bound := b.toNat_lt
  have pair : pair? (hexDigit (b.toNat / 16) :: hexDigit (b.toNat % 16) :: cs) = some b := by
    have high := hexValue?_hexDigit (n := b.toNat / 16) (by omega)
    have low := hexValue?_hexDigit (n := b.toNat % 16) (by omega)
    have value : b.toNat / 16 * 16 + b.toNat % 16 = b.toNat := Nat.div_add_mod' _ _
    simp only [pair?, pairBy?, high, low, Option.bind_eq_bind, Option.bind_some, value,
      UInt8.ofNat_toNat]
    rfl
  unfold encodeByte
  rw [List.cons_append, decode_utf8_percent, List.cons_append, List.cons_append, List.nil_append,
    pair]
  rfl

theorem decode_encodeBytes (bs : Bytes) (cs : List Char) :
    decode (utf8 (bs.flatMap encodeByte ++ cs)) = bs ++ decode (utf8 cs) := by
  induction bs with
  | nil => rfl
  | cons b bs ih =>
    rw [List.flatMap_cons, List.append_assoc, decode_encodeByte, ih, List.cons_append]

/-- What is encoded is read as it would be read if it were not. -/
theorem decode_encode (spares : set.Spares) (cs : List Char) :
    decode (utf8 (encode set cs)) = decode (utf8 cs) := by
  match cs with
  | [] => rfl
  | c :: cs =>
    have rest := decode_encode spares cs
    have later := decode_encode spares (cs.drop 2)
    have head : encode set (c :: cs) = encodeChar set c ++ encode set cs := rfl
    by_cases percent : c = '%'
    · have kept : encodeChar set '%' = ['%'] := if_neg (by rw [spares.1]; decide)
      have same : pair? (encode set cs) = pair? cs :=
        (faithful_encodeChar spares).pairBy?_flatMap cs
      rw [head, percent, kept, List.singleton_append, decode_utf8_percent, decode_utf8_percent,
        same]
      split
      · rename_i byte pair
        have dropped : (encode set cs).drop 2 = encode set (cs.drop 2) :=
          (faithful_encodeChar spares).drop_flatMap pair
        rw [dropped, later]
      · rw [rest]
    · rw [head, decode_utf8_cons percent, encodeChar]
      split
      · rw [decode_encodeBytes, rest]
      · rw [List.singleton_append, decode_utf8_cons percent, rest]
termination_by cs.length
decreasing_by
  · exact Nat.lt_succ_self _
  · simp only [List.length_drop, List.length_cons]; omega

/-! ### What is read as itself -/

/-- No percent sign has two hexadecimal digits after it. -/
def Unescaped (cs : List Char) : Prop :=
  ∀ rest, '%' :: rest <:+ cs → pair? rest = none

theorem unescaped_cons :
    Unescaped (c :: cs) ↔ (c = '%' → pair? cs = none) ∧ Unescaped cs := by
  constructor
  · intro unescaped
    refine ⟨fun percent => ?_, fun rest suffix => ?_⟩
    · subst percent
      exact unescaped cs (List.suffix_refl _)
    · exact unescaped rest (suffix.trans (List.suffix_cons c cs))
  · rintro ⟨first, later⟩ rest suffix
    obtain same | suffix := List.suffix_cons_iff.mp suffix
    · obtain ⟨rfl, rfl⟩ := List.cons.inj same
      exact first rfl
    · exact later rest suffix

theorem unescaped_append {front : List Char} (absent : '%' ∉ front) :
    Unescaped (front ++ cs) ↔ Unescaped cs := by
  induction front with
  | nil => exact Iff.rfl
  | cons c front ih =>
    obtain ⟨other, later⟩ := List.ne_and_not_mem_of_not_mem_cons absent
    rw [List.cons_append, unescaped_cons, ih later]
    exact and_iff_right fun percent => absurd percent.symm other

/-- An escape is longer than what it is read as. -/
theorem length_decode_lt (pair : pair? cs = some byte) :
    (decode (utf8 ('%' :: cs))).length < (utf8 ('%' :: cs)).length := by
  have whole : utf8 ('%' :: cs) = percentSign :: utf8 cs := rfl
  have dropped : (utf8 cs).drop 2 = utf8 (cs.drop 2) := faithful_utf8.drop_flatMap pair
  have read := length_decode_le (utf8 (cs.drop 2))
  have digit : 0 < (utf8 cs).length := by
    obtain ⟨a, b, rest, rfl, -⟩ := exists_of_pair? pair
    have byte := length_utf8EncodeChar_pos a
    rw [utf8_cons, List.length_append]
    omega
  rw [decode_utf8_percent, pair, whole, List.length_cons, List.length_cons]
  rw [← dropped, List.length_drop, dropped] at read
  omega

theorem decode_eq_self_iff : decode (utf8 cs) = utf8 cs ↔ Unescaped cs := by
  induction cs with
  | nil =>
    refine ⟨fun _ rest suffix => ?_, fun _ => decode_of_length_lt (by decide)⟩
    nomatch List.suffix_nil.mp suffix
  | cons c cs ih =>
    rw [unescaped_cons, ← ih]
    by_cases percent : c = '%'
    · subst percent
      have whole : utf8 ('%' :: cs) = percentSign :: utf8 cs := rfl
      cases pair : pair? cs with
      | none =>
        rw [decode_utf8_percent, pair, whole]
        simp only [List.cons.injEq, true_and, implies_true]
      | some byte =>
        have shorter := length_decode_lt pair
        constructor
        · intro same
          rw [same] at shorter
          exact absurd shorter (Nat.lt_irrefl _)
        · rintro ⟨absent, -⟩
          nomatch absent rfl
    · rw [decode_utf8_cons percent, utf8_cons, List.append_right_inj]
      exact (and_iff_right fun same => absurd same percent).symm

end Switchboard.Url
