/-!
# Tables

Values by key, kept in the order in which the keys were first put. Looking up after each operation
is described by one lemma each.
-/

namespace Switchboard

structure Table (κ α : Type) where
  entries : List (κ × α) := []
deriving DecidableEq

namespace Table

variable {κ α : Type} [DecidableEq κ]

def get? (t : Table κ α) (k : κ) : Option α := t.entries.lookup k

def keys (t : Table κ α) : List κ := t.entries.map Prod.fst

/-- The entries of a list after the value of `k` has become `a`; a new key comes last. -/
def putIn (k : κ) (a : α) : List (κ × α) → List (κ × α)
  | [] => [(k, a)]
  | (k', a') :: rest => if k' = k then (k, a) :: rest else (k', a') :: putIn k a rest

def put (t : Table κ α) (k : κ) (a : α) : Table κ α := ⟨putIn k a t.entries⟩

def erase (t : Table κ α) (k : κ) : Table κ α := ⟨t.entries.filter (·.1 ≠ k)⟩

@[simp]
theorem get?_empty (k : κ) : ({} : Table κ α).get? k = none := rfl

@[simp]
theorem get?_put_self (t : Table κ α) (k : κ) (a : α) : (t.put k a).get? k = some a := by
  obtain ⟨es⟩ := t
  simp only [get?, put]
  induction es with
  | nil => simp [putIn]
  | cons e es ih =>
    obtain ⟨x, y⟩ := e
    by_cases h : x = k
    · simp [putIn, h]
    · have h' : (k == x) = false := by simpa using Ne.symm h
      simp [putIn, h, List.lookup_cons, h', ih]

theorem get?_put_of_ne (t : Table κ α) {k k' : κ} (a : α) (h : k ≠ k') :
    (t.put k' a).get? k = t.get? k := by
  obtain ⟨es⟩ := t
  simp only [get?, put]
  have hk : (k == k') = false := by simpa using h
  induction es with
  | nil => simp [putIn, List.lookup_cons, hk]
  | cons e es ih =>
    obtain ⟨x, y⟩ := e
    by_cases hx : x = k'
    · simp [putIn, hx, List.lookup_cons, hk]
    · simp [putIn, hx, List.lookup_cons, ih]

@[simp]
theorem get?_erase_self (t : Table κ α) (k : κ) : (t.erase k).get? k = none := by
  simp [get?, erase, List.lookup_eq_none_iff, @eq_comm _ k]

theorem get?_erase_of_ne (t : Table κ α) {k k' : κ} (h : k ≠ k') :
    (t.erase k').get? k = t.get? k := by
  obtain ⟨es⟩ := t
  simp only [get?, erase]
  have hk : (k == k') = false := by simpa using h
  induction es with
  | nil => rfl
  | cons e es ih =>
    obtain ⟨x, y⟩ := e
    simp only [ne_eq, decide_not] at ih
    by_cases hx : x = k'
    · simp [hx, List.lookup_cons, hk, ih]
    · simp [hx, List.lookup_cons, ih]

end Table

end Switchboard
