import Switchboard.Proofs.Json.RoundTrip
import Switchboard.Wire.Request

/-!
# Written requests

Every request is read back from the frame that is written for it, so no two requests are written
alike. A frame is one line without control characters, and its `type` is the kind of the request.
-/

namespace Switchboard.Wire

open Json

/-! ### The values of fields -/

theorem fits_natural {depth n : Nat} (word : n < UInt64.size) : (natural n).Fits depth :=
  .number (Nat.le_sub_one_of_lt word)

theorem fits_hostId (h : HostId) (depth : Nat) : (HostId.value h).Fits depth :=
  fits_natural (Nat.lt_trans h.number.toNat_lt_size (by decide))

theorem fits_terminalId (t : TerminalId) (depth : Nat) : (TerminalId.value t).Fits depth :=
  fits_natural (Nat.lt_trans t.number.toNat_lt_size (by decide))

theorem fits_word16 (w : UInt16) (depth : Nat) : (natural w.toNat).Fits depth :=
  fits_natural (Nat.lt_trans w.toNat_lt_size (by decide))

namespace Request

theorem fits_value (r : Request) (depth : Nat) : r.value.Fits (depth + 1) := by
  have fields : ∀ m ∈ r.fields, m.2.Fits depth := by
    cases r with
    | openTerminal host => simpa [fields] using fits_hostId host depth
    | resize t size =>
      simpa [fields] using
        ⟨fits_terminalId t depth, fits_word16 size.cols depth, fits_word16 size.rows depth⟩
    | key t text => simpa [fields] using ⟨fits_terminalId t depth, .text text⟩
    | closeTerminal t => simpa [fields] using fits_terminalId t depth
    | file t path list =>
      simpa [fields] using ⟨fits_terminalId t depth, .text path, .bool list⟩
  exact .object (List.forall_mem_cons.mpr ⟨.text r.kind, fields⟩)

/-! ### Reading back -/

theorem get?_type_value (r : Request) : r.value.get? "type" = some (.text r.kind) := by
  cases r <;> rfl

theorem ofValue?_value (r : Request) : ofValue? r.value = some r := by
  cases r <;>
    simp [ofValue?, value, kind, fields, fieldNames?, ofFields?, Members.occurrences,
      Members.last?, Fields.onceNamed?, Fields.lastNamed, List.lookup_cons, required, defaulted,
      Value.text?, Value.bool?]

theorem read?_encode (r : Request) : Value.read? r.encode = some r.value :=
  (r.fits_value 126).read?_render

theorem decode?_encode (r : Request) : decode? r.encode = some r := by
  rw [decode?, read?_encode, Option.bind_some, ofValue?_value]

/-- Every request is written, and read back from what is written, which has no control characters
and says the kind of the request. So two requests are never written alike. -/
theorem requests_written_apart :
    (∀ r : Request, transmit true r = .ok r.encode ∧ decode? r.encode = some r ∧
      (Value.read? r.encode).bind (Value.get? "type") = some (.text r.kind) ∧
      ∀ c ∈ r.encode.toList, 0x20 ≤ c.toNat) ∧
    ∀ r r' : Request, r ≠ r' → r.encode ≠ r'.encode := by
  constructor
  · intro r
    refine ⟨rfl, decode?_encode r, ?_, ?_⟩
    · rw [read?_encode, Option.bind_some, get?_type_value]
    · rw [encode, Value.render, String.toList_ofList]
      exact (r.fits_value 126).visible
  · intro r r' differ same
    have back := decode?_encode r
    rw [same, decode?_encode r'] at back
    exact differ (Option.some.inj back.symm)

end Request

end Switchboard.Wire
