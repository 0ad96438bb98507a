import Switchboard.Proofs.Json.Members
import Switchboard.Proofs.Wire.ReportCodec

/-!
# Which texts are reports

Every text is a report, of an unknown type or malformed. `decode_cases` tells them apart, and
`decode_congr` says that the last `type` and the last of each field of that type decide.
-/

namespace Switchboard.Wire.Report

open Json

variable {text text' kind : String} {members members' : Members} {v : Value}

/-- The fields that count in a report of a kind. -/
def fieldNames : String → List String
  | "host_connected" => ["host_id", "host_ip", "host_user_name", "host_name"]
  | "host_disconnected" => ["host_id"]
  | "terminal_added" => ["host_id", "terminal_id"]
  | "terminal_output" => ["terminal_id", "output"]
  | "terminal_closed" => ["host_id", "terminal_id"]
  | "directory_listing_received" => ["terminal_id", "req_path", "files"]
  | _ => []

theorem ofMembers?_congr
    (same : ∀ name ∈ fieldNames kind, members'.last? name = members.last? name) :
    ofMembers? kind members' = ofMembers? kind members := by
  unfold ofMembers?
  split <;> simp only [fieldNames, List.forall_mem_cons] at same <;> simp only [same]

/-! ### Values -/

/-- The last `type` of an object is a text. -/
def Named (members : Members) (kind : String) : Prop := members.last? "type" = some (.text kind)

theorem Named.type (named : Named members kind) :
    ((Value.object members).get? "type").bind Value.text? = some kind := by
  rw [Value.get?, named]
  rfl

theorem ofValue_of_unknown (named : Named members kind) (strange : kind ∉ kinds) :
    ofValue (.object members) = .error (.unknownType kind) := by
  unfold ofValue
  rw [named.type]
  simp only [strange, if_false]

theorem ofValue_of_known (named : Named members kind) (known : kind ∈ kinds) :
    ofValue (.object members) =
      (ofMembers? kind members).elim (.error (.badMembers kind)) .ok := by
  unfold ofValue
  rw [named.type]
  simp only [known, if_true]
  cases ofMembers? kind members <;> rfl

theorem ofValue_of_unnamed
    (unnamed : ∀ members kind, v = .object members → ¬ Named members kind) :
    ofValue v = .error .missingType := by
  unfold ofValue
  split
  · rename_i members kind type
    obtain ⟨w, found, text⟩ := Option.bind_eq_some_iff.mp type
    cases w <;> cases text
    exact absurd found (unnamed members kind rfl)
  · rfl

/-! ### Texts -/

/-- A text is an object whose last `type` is a text. -/
def Types (text : String) (members : Members) (kind : String) : Prop :=
  Value.read? text = some (.object members) ∧ Named members kind

/-- What a text can be, and what is decoded from it. -/
inductive Decoded (text : String) : Except DecodeError Report → Prop where
  | unread (bad : Value.read? text = none) : Decoded text (.error .notJson)
  | untyped (untyped : ∀ members kind, ¬ Types text members kind) :
      Decoded text (.error .missingType)
  | unknown {members : Members} {kind : String} (types : Types text members kind)
      (strange : kind ∉ kinds) : Decoded text (.error (.unknownType kind))
  | unfit {members : Members} {kind : String} (types : Types text members kind)
      (known : kind ∈ kinds) (bad : ofMembers? kind members = none) :
      Decoded text (.error (.badMembers kind))
  | report {members : Members} {r : Report} (types : Types text members r.kind)
      (known : r.kind ∈ kinds) (read : ofMembers? r.kind members = some r) : Decoded text (.ok r)

theorem decode_of_read? (read : Value.read? text = some v) : decode text = ofValue v := by
  rw [decode, read]

theorem decode_cases (text : String) : Decoded text (decode text) := by
  cases read : Value.read? text with
  | none =>
    rw [decode, read]
    exact .unread read
  | some v =>
    rw [decode_of_read? read]
    by_cases types : ∃ members kind, Types text members kind
    · obtain ⟨members, kind, types⟩ := types
      obtain rfl : v = .object members := Option.some.inj (read.symm.trans types.1)
      by_cases known : kind ∈ kinds
      · rw [ofValue_of_known types.2 known]
        cases fields : ofMembers? kind members with
        | none => exact .unfit types known fields
        | some r =>
          obtain rfl := kind_of_ofMembers? fields
          exact .report types known fields
      · rw [ofValue_of_unknown types.2 known]
        exact .unknown types known
    · rw [ofValue_of_unnamed]
      · exact .untyped fun members kind found => types ⟨members, kind, found⟩
      · rintro members kind rfl named
        exact types ⟨members, kind, read, named⟩

theorem decode_unknown_iff :
    (decode text).mapError DecodeError.fault = .error ⟨.unknownType, kind⟩ ↔
      ∃ members, Types text members kind ∧ kind ∉ kinds := by
  constructor
  · intro refused
    have case := decode_cases text
    generalize decode text = decoded at case refused
    cases case with
    | unknown types strange =>
      obtain rfl := congrArg Fault.message (Except.error.inj refused)
      exact ⟨_, types, strange⟩
    | unread | untyped | unfit =>
      exact nomatch congrArg Fault.code (Except.error.inj refused)
    | report => exact nomatch refused
  · rintro ⟨members, types, strange⟩
    rw [decode_of_read? types.1, ofValue_of_unknown types.2 strange]
    rfl

theorem types_of_decode {r : Report} (decoded : decode text = .ok r) :
    ∃ members, Types text members r.kind := by
  have case := decode_cases text
  rw [decoded] at case
  cases case with
  | report types => exact ⟨_, types⟩

/-- Nothing but the last `type` and the last of each field of that type counts. -/
theorem decode_congr (types : Types text members kind)
    (read : Value.read? text' = some (.object members'))
    (same : ∀ key ∈ "type" :: fieldNames kind, members'.last? key = members.last? key) :
    decode text' = decode text := by
  obtain ⟨type, fields⟩ := List.forall_mem_cons.mp same
  have named : Named members' kind := type.trans types.2
  rw [decode_of_read? types.1, decode_of_read? read]
  by_cases known : kind ∈ kinds
  · rw [ofValue_of_known types.2 known, ofValue_of_known named known, ofMembers?_congr fields]
  · rw [ofValue_of_unknown types.2 known, ofValue_of_unknown named known]

/-- A text is of an unknown type exactly if it is an object whose last `type` is a text that is no
known kind, whatever else is in it, and the fault then carries that text; it is a report only of the
kind that its last `type` names; and every other text is malformed. Only the last `type` and the
last of each field of that kind count: in whatever order the members stand, what others are added to
them, and what is added before one with the same key, the same is decoded. -/
theorem texts_classified :
    (∀ text kind, (decode text).mapError DecodeError.fault = .error ⟨.unknownType, kind⟩ ↔
      ∃ members : Members, Value.read? text = some (.object members) ∧
        members.last? "type" = some (.text kind) ∧ kind ∉ kinds) ∧
    (∀ text r, decode text = .ok r → ∃ members : Members,
      Value.read? text = some (.object members) ∧ members.last? "type" = some (.text r.kind)) ∧
    (∀ text, (∀ r, decode text ≠ .ok r) →
      (∀ kind, (decode text).mapError DecodeError.fault ≠ .error ⟨.unknownType, kind⟩) →
      ∃ message, (decode text).mapError DecodeError.fault = .error ⟨.malformed, message⟩) ∧
    ∀ (text text' kind : String) (members members' : Members),
      Value.read? text = some (.object members) → members.last? "type" = some (.text kind) →
      Value.read? text' = some (.object members') →
      ((∀ key ∈ "type" :: fieldNames kind, members'.last? key = members.last? key) ∨
        Members.Rearranged ("type" :: fieldNames kind) members members' ∨
        (members.map Prod.fst).Nodup ∧ members.Perm members') →
      decode text' = decode text := by
  refine ⟨fun text kind => ?_, fun text r decoded => types_of_decode decoded, ?_, ?_⟩
  · rw [decode_unknown_iff]
    constructor
    · rintro ⟨members, types, strange⟩
      exact ⟨members, types.1, types.2, strange⟩
    · rintro ⟨members, read, named, strange⟩
      exact ⟨members, ⟨read, named⟩, strange⟩
  · intro text noReport known
    have case := decode_cases text
    generalize decode text = decoded at case noReport known
    cases case with
    | unread | untyped | unfit => exact ⟨_, rfl⟩
    | unknown => exact absurd rfl (known _)
    | report => exact absurd rfl (noReport _)
  · intro text text' kind members members' read named read' alike
    have types : Types text members kind := ⟨read, named⟩
    rcases alike with same | rearranged | ⟨distinct, perm⟩
    · exact decode_congr types read' same
    · exact decode_congr types read' fun _ => rearranged.last?_eq
    · exact decode_congr types read' fun _ => (Members.Rearranged.of_perm distinct perm).last?_eq

end Switchboard.Wire.Report
