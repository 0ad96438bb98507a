import Switchboard.Proofs.Json.Scanning

/-!
# Written values are read back

A value whose numbers are words and that is not nested too deeply is read back from what is written
of it, and what is written has no control characters.
-/

namespace Switchboard.Json

variable {depth : Nat} {v : Value} {outer : List OpenContainer}

/-- The reader takes `ts` from one state to another. -/
def Reader.Takes (r : Reader) (ts : List Token) (r' : Reader) : Prop :=
  ts.foldlM Reader.step r = some r'

namespace Reader.Takes

variable {r r' r'' : Reader} {t : Token} {ts ts' : List Token}

theorem nil : r.Takes [] r := rfl

theorem cons (first : r.step t = some r') (rest : r'.Takes ts r'') : r.Takes (t :: ts) r'' := by
  rw [Takes, List.foldlM_cons, first]
  exact rest

theorem append (first : r.Takes ts r') (rest : r'.Takes ts' r'') : r.Takes (ts ++ ts') r'' := by
  rw [Takes, List.foldlM_append, first]
  exact rest

end Reader.Takes

/-- The tokens of a value, where one may begin, complete it. -/
def Value.Completes (v : Value) (depth : Nat) : Prop :=
  ∀ outer : List OpenContainer, outer.length + depth ≤ maxDepth →
    (Reader.value outer).Takes v.tokens (.complete v outer)

theorem takes_items {vs done : List Value} {last : Value} (each : ∀ v ∈ vs, v.Completes depth)
    (room : outer.length + 1 + depth ≤ maxDepth) :
    (Reader.complete last (.array done :: outer)).Takes (itemTokens vs)
      (.complete (.array (done.reverse ++ last :: vs)) outer) := by
  induction vs generalizing done last with
  | nil =>
    refine .cons ?_ .nil
    simp [Reader.step, Reader.afterValue]
  | cons v vs ih =>
    obtain ⟨first, others⟩ := List.forall_mem_cons.mp each
    have value := first (.array (last :: done) :: outer) room
    have rest : (Reader.complete v (.array (last :: done) :: outer)).Takes (itemTokens vs)
        (.complete (.array ((last :: done).reverse ++ v :: vs)) outer) := ih others
    rw [List.reverse_cons, List.append_assoc] at rest
    exact .cons rfl (value.append rest)

theorem takes_members {ms done : Members} {last : Value} {key : String}
    (each : ∀ m ∈ ms, m.2.Completes depth) (room : outer.length + 1 + depth ≤ maxDepth) :
    (Reader.complete last (.object done key :: outer)).Takes (memberTokens ms)
      (.complete (.object (done.reverse ++ (key, last) :: ms)) outer) := by
  induction ms generalizing done last key with
  | nil =>
    refine .cons ?_ .nil
    simp [Reader.step, Reader.afterValue]
  | cons m ms ih =>
    obtain ⟨next, v⟩ := m
    obtain ⟨first, others⟩ := List.forall_mem_cons.mp each
    have value := first (.object ((key, last) :: done) next :: outer) room
    have rest : (Reader.complete v (.object ((key, last) :: done) next :: outer)).Takes
        (memberTokens ms) (.complete (.object (((key, last) :: done).reverse ++ (next, v) :: ms))
          outer) := ih others
    rw [List.reverse_cons, List.append_assoc] at rest
    exact .cons rfl (.cons rfl (.cons rfl (value.append rest)))

/-- A value begins with no bracket that closes. -/
theorem exists_tokens_eq_cons (v : Value) :
    ∃ t ts, v.tokens = t :: ts ∧ t ≠ .closeBracket := by
  cases v with
  | null | bool | number | text => exact ⟨_, [], rfl, nofun⟩
  | array items => cases items <;> exact ⟨_, _, rfl, nofun⟩
  | object members =>
    cases members with
    | nil => exact ⟨_, _, rfl, nofun⟩
    | cons m ms => exact ⟨_, _, rfl, nofun⟩

theorem takes_firstItem {r : Reader} {ts : List Token}
    (value : (Reader.value (.array [] :: outer)).Takes (v.tokens ++ ts) r) :
    (Reader.firstItem outer).Takes (v.tokens ++ ts) r := by
  obtain ⟨t, ts', tokens, opens⟩ := exists_tokens_eq_cons v
  rw [tokens] at value ⊢
  have same : (Reader.firstItem outer).step t = (Reader.value (.array [] :: outer)).step t := by
    cases t with
    | closeBracket => exact absurd rfl opens
    | _ => rfl
  rw [Reader.Takes, List.cons_append, List.foldlM_cons, same]
  exact value

theorem Value.Fits.completes (fits : v.Fits depth) : v.Completes depth := by
  induction fits with
  | null | bool | number | text => exact fun outer _ => .cons rfl .nil
  | @array depth items _ ih =>
    intro outer room
    have opens : (Reader.value outer).step .openBracket = some (.firstItem outer) := by
      simp only [Reader.step, Reader.beginValue]
      rw [if_pos (by omega)]
    cases items with
    | nil => exact .cons opens (.cons rfl .nil)
    | cons v vs =>
      obtain ⟨first, others⟩ := List.forall_mem_cons.mp ih
      have room' : (OpenContainer.array [] :: outer).length + depth ≤ maxDepth := by
        simp only [List.length_cons]
        omega
      exact .cons opens (takes_firstItem ((first _ room').append (takes_items others room')))
  | @object depth members _ ih =>
    intro outer room
    have opens : (Reader.value outer).step .openBrace = some (.firstKey outer) := by
      simp only [Reader.step, Reader.beginValue]
      rw [if_pos (by omega)]
    cases members with
    | nil => exact .cons opens (.cons rfl .nil)
    | cons m ms =>
      obtain ⟨key, v⟩ := m
      obtain ⟨first, others⟩ := List.forall_mem_cons.mp ih
      have room' : (OpenContainer.object [] key :: outer).length + depth ≤ maxDepth := by
        simp only [List.length_cons]
        omega
      exact .cons opens (.cons rfl (.cons rfl
        ((first _ room').append (takes_members others room'))))

/-- A value is read back from what is written of it. -/
theorem Value.Fits.read?_render (fits : v.Fits maxDepth) : Value.read? v.render = some v := by
  have complete := fits.completes [] (Nat.le_of_eq (Nat.zero_add maxDepth))
  rw [Value.read?, Value.render, String.toList_ofList, fits.lexes.scan?, Option.bind_some,
    Value.ofTokens?, complete]
  rfl

/-! ### What is written is visible -/

/-- No character is a control character below U+0020. -/
def Visible (cs : List Char) : Prop := ∀ c ∈ cs, 0x20 ≤ c.toNat

instance (cs : List Char) : Decidable (Visible cs) :=
  List.decidableBAll (fun c : Char => 0x20 ≤ c.toNat) cs

namespace Visible

variable {c : Char} {cs cs' : List Char}

theorem nil : Visible [] := fun _ mem => nomatch mem

theorem cons (first : 0x20 ≤ c.toNat) (rest : Visible cs) : Visible (c :: cs) :=
  List.forall_mem_cons.mpr ⟨first, rest⟩

theorem append (first : Visible cs) (rest : Visible cs') : Visible (cs ++ cs') :=
  List.forall_mem_append.mpr ⟨first, rest⟩

end Visible

theorem visible_quote (s : String) : Visible (quote s) := fun _ => visible_of_mem_quote

theorem visible_decimal (n : Nat) : Visible (Number.decimal n).toList := by
  intro c mem
  have digit := Number.isDigit_of_mem_decimal mem
  have least := (Char.isDigit_iff_toNat.mp digit).1
  exact Nat.le_trans (by decide) least

theorem visible_items {vs : List Value} (each : ∀ v ∈ vs, Visible v.write) :
    Visible (writeItems vs) := by
  induction vs with
  | nil => exact .cons (by decide) .nil
  | cons v vs ih =>
    obtain ⟨first, others⟩ := List.forall_mem_cons.mp each
    exact .cons (by decide) (first.append (ih others))

theorem visible_members {ms : Members} (each : ∀ m ∈ ms, Visible m.2.write) :
    Visible (writeMembers ms) := by
  induction ms with
  | nil => exact .cons (by decide) .nil
  | cons m ms ih =>
    obtain ⟨first, others⟩ := List.forall_mem_cons.mp each
    exact .cons (by decide)
      (((visible_quote m.1).append (.cons (by decide) first)).append (ih others))

theorem Value.Fits.visible (fits : v.Fits depth) : Visible v.write := by
  induction fits with
  | null => decide
  | bool b => cases b <;> decide
  | number => exact visible_decimal _
  | text s => exact visible_quote s
  | @array _ items _ ih =>
    cases items with
    | nil => decide
    | cons v vs =>
      obtain ⟨first, others⟩ := List.forall_mem_cons.mp ih
      exact .cons (by decide) (first.append (visible_items others))
  | @object _ members _ ih =>
    cases members with
    | nil => decide
    | cons m ms =>
      obtain ⟨first, others⟩ := List.forall_mem_cons.mp ih
      exact .cons (by decide)
        (((visible_quote m.1).append (.cons (by decide) first)).append (visible_members others))

end Switchboard.Json
