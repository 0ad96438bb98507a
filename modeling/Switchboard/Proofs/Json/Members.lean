import Switchboard.Json.Value

/-!
# Members of an object

Only the last member with a key counts. `Rearranged`: what can be done to the members of an object
so that the same values count for some keys.
-/

namespace Switchboard.Json.Members

variable {ms ms' more : Members} {key : String} {keys : List String} {m : String × Value}

theorem last?_append (ms more : Members) (key : String) :
    last? key (ms ++ more) = (last? key more).or (last? key ms) := by
  simp only [last?, List.reverse_append, List.lookup_append]

theorem last?_cons (m : String × Value) (ms : Members) (key : String) :
    last? key (m :: ms) = (last? key ms).or (if key = m.1 then some m.2 else none) := by
  obtain ⟨name, v⟩ := m
  rw [← List.singleton_append, last?_append]
  by_cases same : key = name
  · simp [last?, same]
  · have other : (key == name) = false := by simpa using same
    simp [last?, List.lookup_cons, same, other]

theorem last?_cons_of_ne (ms : Members) (other : key ≠ m.1) :
    last? key (m :: ms) = last? key ms := by
  rw [last?_cons, if_neg other, Option.or_none]

theorem isSome_last? : (last? key ms).isSome ↔ key ∈ ms.map Prod.fst := by
  induction ms with
  | nil => simp [last?]
  | cons m ms ih =>
    rw [last?_cons, Option.isSome_or, Bool.or_eq_true, ih, List.map_cons, List.mem_cons]
    by_cases same : key = m.1 <;> simp [same]

theorem last?_cons_of_mem (again : m.1 ∈ ms.map Prod.fst) :
    last? key (m :: ms) = last? key ms := by
  by_cases same : key = m.1
  · subst same
    obtain ⟨v, found⟩ := Option.isSome_iff_exists.mp (isSome_last?.mpr again)
    rw [last?_cons, found, Option.some_or]
  · exact last?_cons_of_ne ms same

/-- Members are put into another order in which those with one key keep theirs, members are added
with keys that are not among `keys`, and members are added before others with the same key. -/
inductive Rearranged (keys : List String) : Members → Members → Prop where
  | refl (ms : Members) : Rearranged keys ms ms
  | swap (before after : Members) {m m' : String × Value} (differ : m.1 ≠ m'.1) :
      Rearranged keys (before ++ m :: m' :: after) (before ++ m' :: m :: after)
  | stranger (before after : Members) {m : String × Value} (strange : m.1 ∉ keys) :
      Rearranged keys (before ++ after) (before ++ m :: after)
  | earlier (before after : Members) {m : String × Value} (again : m.1 ∈ after.map Prod.fst) :
      Rearranged keys (before ++ after) (before ++ m :: after)
  | trans {ms ms' ms'' : Members} (first : Rearranged keys ms ms')
      (second : Rearranged keys ms' ms'') : Rearranged keys ms ms''

namespace Rearranged

theorem last?_eq (r : Rearranged keys ms ms') (mem : key ∈ keys) :
    last? key ms' = last? key ms := by
  induction r with
  | refl => rfl
  | @swap before after m m' differ =>
    simp only [last?_append]
    congr 1
    simp only [last?_cons, Option.or_assoc]
    congr 1
    by_cases same : key = m.1
    · have other : key ≠ m'.1 := fun same' => differ (same.symm.trans same')
      simp [if_neg other]
    · simp [if_neg same]
  | @stranger before after m strange =>
    have other : key ≠ m.1 := ne_of_mem_of_not_mem mem strange
    rw [last?_append, last?_append, last?_cons_of_ne after other]
  | earlier before after again => rw [last?_append, last?_append, last?_cons_of_mem again]
  | trans _ _ first second => exact second.trans first

theorem cons (r : Rearranged keys ms ms') (m : String × Value) :
    Rearranged keys (m :: ms) (m :: ms') := by
  induction r with
  | refl ms => exact .refl _
  | swap before after differ => exact .swap (m :: before) after differ
  | stranger before after strange => exact .stranger (m :: before) after strange
  | earlier before after again => exact .earlier (m :: before) after again
  | trans _ _ first second => exact .trans first second

/-- Where no key is repeated, every order of the members will do. -/
theorem of_perm (distinct : (ms.map Prod.fst).Nodup) (perm : ms.Perm ms') :
    Rearranged keys ms ms' := by
  induction perm with
  | nil => exact .refl []
  | cons m _ ih => exact (ih (List.nodup_cons.mp distinct).2).cons m
  | swap m m' ms =>
    have differ : m'.1 ≠ m.1 := by
      intro same
      exact (List.nodup_cons.mp distinct).1 (same ▸ List.mem_cons_self)
    exact .swap [] ms differ
  | trans perm _ first second =>
    exact .trans (first distinct) (second ((perm.map Prod.fst).nodup_iff.mp distinct))

end Rearranged

end Switchboard.Json.Members
