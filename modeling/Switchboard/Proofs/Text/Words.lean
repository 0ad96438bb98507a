import Switchboard.Text.Blank

/-!
# Words of a text

A text is cut into words at its white space, whatever that is. So the words give the text back only
if it has one space between each two words and no other white space: `intercalate_words_eq_iff`.
-/

namespace Switchboard.Text

variable {α : Type} {p : α → Bool} {w cs : List Char} {ws : List (List Char)} {s : String}

/-- A run of characters none of which is white space. -/
structure IsWord (w : List Char) : Prop where
  some : w ≠ []
  visible : ∀ c ∈ w, isBlank c = false

instance (w : List Char) : Decidable (IsWord w) :=
  decidable_of_iff (w ≠ [] ∧ w.all (fun c => !isBlank c) = true)
    ⟨fun word => ⟨word.1, by simpa using word.2⟩,
      fun word => ⟨word.some, by simpa using word.visible⟩⟩

/-- A text of words, with one space between each two and no other white space. -/
def SingleSpaced (s : String) : Prop :=
  ∃ ws, (∀ w ∈ ws, IsWord w) ∧ s.toList = [' '].intercalate ws

theorem isBlank_of_isDigit {c : Char} (digit : c.isDigit = true) : isBlank c = false := by
  simp only [Char.isDigit, Bool.and_eq_true, decide_eq_true_eq] at digit
  have low : 48 ≤ c.toNat := UInt32.le_iff_toNat_le.mp digit.1
  have high : c.toNat ≤ 57 := UInt32.le_iff_toNat_le.mp digit.2
  simp only [isBlank, Bool.or_eq_false_iff, Bool.and_eq_false_iff, decide_eq_false_iff_not,
    beq_eq_false_iff_ne]
  omega

theorem eq_false_of_mem_splitOnP {xs piece : List α} (mem : piece ∈ xs.splitOnP p) :
    ∀ x ∈ piece, p x = false := by
  induction xs generalizing piece with
  | nil =>
    rw [List.splitOnP_nil] at mem
    rw [List.mem_singleton.mp mem]
    exact fun x none => nomatch none
  | cons x xs ih =>
    rw [List.splitOnP_cons_eq_if_modifyHead] at mem
    split at mem
    · rcases List.mem_cons.mp mem with rfl | later
      · exact fun x none => nomatch none
      · exact ih later
    · rename_i other
      -- The element belongs to the first piece of what follows it.
      obtain ⟨first, rest, pieces⟩ := List.exists_cons_of_ne_nil (List.splitOnP_ne_nil p xs)
      rw [pieces] at ih
      rw [pieces, List.modifyHead_cons] at mem
      rcases List.mem_cons.mp mem with rfl | later
      · exact List.forall_mem_cons.mpr ⟨Bool.eq_false_iff.mpr other, ih List.mem_cons_self⟩
      · exact ih (List.mem_cons_of_mem _ later)

theorem splitOn_of_notMem [BEq α] [LawfulBEq α] {x : α} {xs : List α} (whole : x ∉ xs) :
    xs.splitOn x = [xs] :=
  List.splitOnP_eq_singleton fun _ mem => beq_eq_false_iff_ne.mpr fun same => whole (same ▸ mem)

theorem isWord_of_mem_wordsOf (mem : w ∈ wordsOf cs) : IsWord w := by
  obtain ⟨piece, some⟩ := List.mem_filter.mp mem
  exact ⟨by simpa using some, eq_false_of_mem_splitOnP piece⟩

theorem wordsOf_append_cons (xs ys : List Char) {c : Char} (blank : isBlank c = true) :
    wordsOf (xs ++ c :: ys) = wordsOf xs ++ wordsOf ys := by
  rw [wordsOf, List.splitOnP_append_cons xs ys blank, List.filter_append, wordsOf, wordsOf]

theorem wordsOf_eq_nil (blank : ∀ c ∈ cs, isBlank c = true) : wordsOf cs = [] := by
  induction cs with
  | nil => rfl
  | cons c cs ih =>
    obtain ⟨first, rest⟩ := List.forall_mem_cons.mp blank
    rw [← List.nil_append (c :: cs), wordsOf_append_cons [] cs first, ih rest]
    rfl

/-- White space at the end makes no difference. -/
theorem wordsOf_append_of_blank (xs : List Char) (blank : ∀ c ∈ cs, isBlank c = true) :
    wordsOf (xs ++ cs) = wordsOf xs := by
  cases cs with
  | nil => rw [List.append_nil]
  | cons c cs =>
    obtain ⟨first, rest⟩ := List.forall_mem_cons.mp blank
    rw [wordsOf_append_cons xs cs first, wordsOf_eq_nil rest, List.append_nil]

theorem IsWord.wordsOf_eq (word : IsWord w) : wordsOf w = [w] := by
  simp [wordsOf, List.splitOnP_eq_singleton word.visible, word.some]

theorem wordsOf_intercalate (all : ∀ w ∈ ws, IsWord w) : wordsOf ([' '].intercalate ws) = ws := by
  induction ws with
  | nil => rfl
  | cons w ws ih =>
    obtain ⟨word, rest⟩ := List.forall_mem_cons.mp all
    cases ws with
    | nil => rw [List.intercalate_singleton, word.wordsOf_eq]
    | cons next ws =>
      rw [List.intercalate_cons_cons, List.append_assoc, List.singleton_append,
        wordsOf_append_cons _ _ (by rfl), word.wordsOf_eq, ih rest, List.singleton_append]

theorem words_eq_singleton_iff : words s = [s] ↔ IsWord s.toList := by
  constructor
  · intro one
    obtain ⟨w, mem, same⟩ := List.mem_map.mp (show s ∈ words s from one ▸ List.mem_singleton_self s)
    rw [← same, String.toList_ofList]
    exact isWord_of_mem_wordsOf mem
  · intro word
    rw [words, word.wordsOf_eq, List.map_singleton, String.ofList_toList]

theorem words_intercalate {ws : List String} (all : ∀ w ∈ ws, IsWord w.toList) :
    words (" ".intercalate ws) = ws := by
  have runs : ∀ w ∈ ws.map String.toList, IsWord w := by simpa using all
  rw [words, String.toList_intercalate, show " ".toList = [' '] from rfl, wordsOf_intercalate runs,
    List.map_map]
  have texts : (String.ofList ∘ String.toList) = id := funext fun _ => String.ofList_toList
  rw [texts, List.map_id]

/-- A word and a space before a text are the first of its words. -/
theorem words_lead {lead : String} (word : IsWord lead.toList) (s : String) :
    words (lead ++ " " ++ s) = lead :: words s := by
  have cut : (lead ++ " " ++ s).toList = lead.toList ++ ' ' :: s.toList := by
    rw [String.toList_append, String.toList_append, List.append_assoc]
    rfl
  rw [words, cut, wordsOf_append_cons _ _ (by rfl), word.wordsOf_eq, List.singleton_append,
    List.map_cons, String.ofList_toList, words]

theorem toList_intercalate_words (s : String) :
    (" ".intercalate (words s)).toList = [' '].intercalate (wordsOf s.toList) := by
  rw [String.toList_intercalate, words, List.map_map]
  have texts : (String.toList ∘ String.ofList) = id := funext fun _ => String.toList_ofList
  rw [texts, List.map_id]
  rfl

theorem intercalate_words_eq_iff : " ".intercalate (words s) = s ↔ SingleSpaced s := by
  rw [← String.toList_inj, toList_intercalate_words]
  constructor
  · exact fun same => ⟨wordsOf s.toList, fun _ => isWord_of_mem_wordsOf, same.symm⟩
  · rintro ⟨ws, all, same⟩
    rw [same, wordsOf_intercalate all]

instance (s : String) : Decidable (SingleSpaced s) := decidable_of_iff _ intercalate_words_eq_iff

end Switchboard.Text
