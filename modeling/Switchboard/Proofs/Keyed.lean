import Mathlib.Data.List.Induction
import Mathlib.Data.List.Nodup
import Switchboard.Table

/-!
# Lists looked up by a key

Hosts, slots and sessions lie in lists and are found by their numbers; sizes lie in a table.
-/

namespace Switchboard

variable {α κ : Type} [DecidableEq κ] {key : α → κ} {l : List α} {a : α} {k : κ}

theorem key_of_find? (found : l.find? (key · = k) = some a) : key a = k := by
  simpa using List.find?_some found

/-- A member is found under its key when no two members share one. -/
theorem find?_key_of_mem (distinct : (l.map key).Nodup) (mem : a ∈ l) :
    l.find? (key · = key a) = some a := by
  cases found : l.find? (key · = key a) with
  | none => simpa using List.find?_eq_none.mp found a mem
  | some x =>
    have inside := List.mem_of_find?_eq_some found
    rw [List.inj_on_of_nodup_map distinct inside mem (key_of_find? found)]

theorem find?_key_map {change : α → α} (kept : ∀ x, key (change x) = key x) :
    (l.map change).find? (key · = k) = (l.find? (key · = k)).map change := by
  simp only [List.find?_map, Function.comp_def, kept]

theorem Table.isSome_get? {t : Table κ α} (mem : k ∈ t.keys) : (t.get? k).isSome := by
  obtain ⟨⟨_, a⟩, inside, rfl⟩ := List.mem_map.mp mem
  rw [Option.isSome_iff_ne_none]
  intro absent
  simpa using List.lookup_eq_none_iff.mp absent _ inside

theorem Table.erase_eq_self {t : Table κ α} (absent : t.get? k = none) : t.erase k = t := by
  have kept : t.entries.filter (·.1 ≠ k) = t.entries := by
    rw [List.filter_eq_self]
    intro p mem
    have other : k ≠ p.1 := by simpa using List.lookup_eq_none_iff.mp absent p mem
    simpa using other.symm
  rw [erase, kept]

theorem Table.keys_put (t : Table κ α) (k : κ) (a : α) :
    (t.put k a).keys = if k ∈ t.keys then t.keys else t.keys ++ [k] := by
  obtain ⟨es⟩ := t
  simp only [keys, put]
  induction es with
  | nil => simp [putIn]
  | cons e es ih =>
    obtain ⟨x, y⟩ := e
    by_cases same : x = k
    · simp [putIn, same]
    · by_cases inside : k ∈ es.map Prod.fst <;>
        simp [putIn, same, ih, inside, Ne.symm same]

theorem Table.nodup_keys_put {t : Table κ α} (distinct : t.keys.Nodup) (k : κ) (a : α) :
    (t.put k a).keys.Nodup := by
  rw [keys_put]
  split
  · exact distinct
  · rename_i new
    exact List.concat_eq_append ▸ distinct.concat new

theorem Table.get?_of_mem {t : Table κ α} (distinct : t.keys.Nodup) (mem : (k, a) ∈ t.entries) :
    t.get? k = some a := by
  obtain ⟨es⟩ := t
  simp only [get?, keys] at *
  induction es with
  | nil => cases mem
  | cons e es ih =>
    obtain ⟨x, y⟩ := e
    obtain ⟨new, rest⟩ := List.nodup_cons.mp distinct
    rcases List.mem_cons.mp mem with here | later
    · cases here
      simp
    · have other : (k == x) = false := by
        rw [beq_eq_false_iff_ne]
        rintro rfl
        exact new (List.mem_map.mpr ⟨_, later, rfl⟩)
      rw [List.lookup_cons, other]
      exact ih rest later

/-! ### Tables made by putting one entry after another -/

/-- The table after some entries were put into an empty one. -/
def Table.ofPuts (puts : List (κ × α)) : Table κ α :=
  puts.foldl (fun t entry => t.put entry.1 entry.2) {}

theorem Table.ofPuts_concat (puts : List (κ × α)) (entry : κ × α) :
    ofPuts (puts ++ [entry]) = (ofPuts puts).put entry.1 entry.2 := by
  simp [ofPuts, List.foldl_append]

theorem Table.nodup_keys_ofPuts (puts : List (κ × α)) : (ofPuts puts).keys.Nodup := by
  induction puts using List.reverseRecOn with
  | nil => exact List.nodup_nil
  | append_singleton puts entry ih => exact ofPuts_concat puts entry ▸ nodup_keys_put ih _ _

/-- Keys stand in the order in which they were first put. -/
theorem Table.keys_ofPuts (puts : List (κ × α)) :
    (ofPuts puts).keys = (puts.map Prod.fst).eraseDups := by
  induction puts using List.reverseRecOn with
  | nil => rfl
  | append_singleton puts entry ih =>
    rw [ofPuts_concat, keys_put, ih, List.map_append, List.eraseDups_append]
    by_cases known : entry.1 ∈ puts.map Prod.fst
    · simp [List.removeAll, known]
    · simp [List.removeAll, known, List.eraseDups_cons]

/-- Under a key stands what was put there last. -/
theorem Table.get?_ofPuts (puts : List (κ × α)) (k : κ) :
    (ofPuts puts).get? k = (puts.filter (·.1 = k)).getLast?.map Prod.snd := by
  induction puts using List.reverseRecOn with
  | nil => rfl
  | append_singleton puts entry ih =>
    rw [ofPuts_concat, List.filter_append]
    by_cases same : entry.1 = k
    · subst same
      simp
    · rw [get?_put_of_ne _ _ (Ne.symm same), ih]
      simp [same]

theorem Table.mem_ofPuts {puts : List (κ × α)} {entry : κ × α}
    (mem : entry ∈ (ofPuts puts).entries) :
    (puts.filter (·.1 = entry.1)).getLast? = some entry := by
  have found := get?_of_mem (nodup_keys_ofPuts puts) mem
  rw [get?_ofPuts] at found
  obtain ⟨last, same, value⟩ := Option.map_eq_some_iff.mp found
  have key := List.mem_filter.mp (List.mem_of_getLast? same)
  rw [same, Prod.ext (of_decide_eq_true key.2) value]

end Switchboard
