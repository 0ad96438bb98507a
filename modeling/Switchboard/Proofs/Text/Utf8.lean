import Mathlib.Data.List.Basic
import Switchboard.Text.Utf8

/-!
# Characters and their bytes

An ASCII character is one byte of its own number, and every byte of another character is at least
`0x80`, so no ASCII byte is found inside one.
-/

namespace Switchboard.Text

variable {c : Char} {cs : List Char} {bs : Bytes} {s : String}

def utf8 (cs : List Char) : Bytes := cs.flatMap String.utf8EncodeChar

@[simp]
theorem utf8_cons (c : Char) (cs : List Char) :
    utf8 (c :: cs) = String.utf8EncodeChar c ++ utf8 cs := rfl

@[simp]
theorem bytes_ofList (cs : List Char) : bytes (String.ofList cs) = utf8 cs := by
  rw [bytes, String.toList_ofList, utf8]

theorem utf8EncodeChar_of_lt (ascii : c.toNat < 0x80) :
    String.utf8EncodeChar c = [UInt8.ofNat c.toNat] := by
  have small : c.val.toNat ≤ 127 := Nat.le_of_lt_succ ascii
  unfold String.utf8EncodeChar
  exact if_pos small

theorem le_of_mem_utf8EncodeChar (beyond : 0x80 ≤ c.toNat) {b : UInt8}
    (mem : b ∈ String.utf8EncodeChar c) : 0x80 ≤ b.toNat := by
  have large : ¬ c.val.toNat ≤ 127 := Nat.not_le_of_lt beyond
  unfold String.utf8EncodeChar at mem
  simp only [if_neg large] at mem
  -- Every byte is a remainder to which 0x80 or more is added.
  split at mem
  · simp only [List.mem_cons, List.not_mem_nil, or_false] at mem
    obtain rfl | rfl := mem <;> simp only [UInt8.toNat_ofNat'] <;> omega
  · split at mem
    · simp only [List.mem_cons, List.not_mem_nil, or_false] at mem
      obtain rfl | rfl | rfl := mem <;> simp only [UInt8.toNat_ofNat'] <;> omega
    · simp only [List.mem_cons, List.not_mem_nil, or_false] at mem
      obtain rfl | rfl | rfl | rfl := mem <;> simp only [UInt8.toNat_ofNat'] <;> omega

theorem length_utf8EncodeChar_pos (c : Char) : 0 < (String.utf8EncodeChar c).length := by
  rw [String.length_utf8EncodeChar]
  exact c.utf8Size_pos

/-- With every character that is left out goes at least one byte. -/
theorem length_utf8_of_sublist {part whole : List Char} (sub : part.Sublist whole) :
    (utf8 part).length + whole.length ≤ (utf8 whole).length + part.length := by
  induction sub with
  | slnil => exact Nat.le_refl _
  | cons c sub ih =>
    have byte := length_utf8EncodeChar_pos c
    rw [utf8_cons, List.length_append, List.length_cons]
    omega
  | cons_cons c sub ih =>
    simp only [utf8_cons, List.length_append, List.length_cons]
    omega

/-- Bytes are read as a text only if they are its bytes. -/
theorem text?_eq_some_iff : text? bs = some s ↔ bs = bytes s := by
  constructor
  · intro read
    unfold text? String.fromUTF8? at read
    split at read
    · have same : s.toByteArray = bs.toByteArray := by
        rw [← Option.some.inj read]
        rfl
      rw [← toByteArray_bytes] at same
      have arrays := congrArg (fun a => a.data.toList) same
      simpa only [List.data_toByteArray] using arrays.symm
    · nomatch read
  · rintro rfl
    exact text?_bytes s

theorem append_utf8EncodeChar_eq (ascii : c.toNat < 0x80) {front : Bytes} {last : Char}
    (same : front ++ String.utf8EncodeChar last = bs ++ [UInt8.ofNat c.toNat]) :
    front = bs ∧ last = c := by
  by_cases single : last.toNat < 0x80
  · rw [utf8EncodeChar_of_lt single] at same
    obtain ⟨fronts, bytes⟩ := List.append_inj' same rfl
    have numbers := congrArg UInt8.toNat (List.singleton_inj.mp bytes)
    simp only [UInt8.toNat_ofNat'] at numbers
    refine ⟨fronts, Char.toNat_inj.mp (by omega)⟩
  · have ends : UInt8.ofNat c.toNat ∈ String.utf8EncodeChar last := by
      have some : String.utf8EncodeChar last ≠ [] :=
        List.ne_nil_of_length_pos (length_utf8EncodeChar_pos last)
      have bytes := congrArg List.getLast? same
      rw [List.getLast?_append_of_ne_nil _ some, List.getLast?_concat] at bytes
      exact List.mem_of_getLast? bytes
    have large := le_of_mem_utf8EncodeChar (Nat.le_of_not_lt single) ends
    rw [UInt8.toNat_ofNat'] at large
    omega

/-- An ASCII character behind some bytes is read apart from them. -/
theorem text?_append_ascii (ascii : c.toNat < 0x80) (bs : Bytes) :
    text? (bs ++ [UInt8.ofNat c.toNat]) = (text? bs).map (·.push c) := by
  ext s
  rw [text?_eq_some_iff, Option.map_eq_some_iff]
  constructor
  · intro same
    obtain none | ⟨init, last, split⟩ := List.eq_nil_or_concat s.toList
    · rw [bytes, none] at same
      simp at same
    · rw [List.concat_eq_append] at split
      rw [bytes, split, List.flatMap_append, List.flatMap_singleton] at same
      obtain ⟨front, rfl⟩ := append_utf8EncodeChar_eq ascii same.symm
      refine ⟨String.ofList init, text?_eq_some_iff.mpr ?_, ?_⟩
      · rw [bytes_ofList, ← front, utf8]
      · rw [← String.toList_inj, split]
        simp
  · rintro ⟨init, read, rfl⟩
    rw [text?_eq_some_iff.mp read]
    simp [bytes, utf8EncodeChar_of_lt ascii]

end Switchboard.Text
