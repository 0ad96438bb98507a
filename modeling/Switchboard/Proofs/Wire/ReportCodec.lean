import Switchboard.Desk.Report
import Switchboard.Proofs.Wire.RequestCodec

/-!
# Written reports

Every report is read back from the frame that is written for it, with its output in the form in
which it was sent. The form of an output makes no difference to a desk.
-/

namespace Switchboard.Wire

open Json

/-! ### The values of fields -/

theorem fits_word64 (w : UInt64) (depth : Nat) : (natural w.toNat).Fits depth :=
  fits_natural w.toNat_lt_size

theorem fits_bytesValue (bs : Bytes) (depth : Nat) : (bytesValue bs).Fits (depth + 1) := by
  refine .array fun v mem => ?_
  obtain ⟨b, _, rfl⟩ := List.mem_map.mp mem
  exact fits_natural (Nat.lt_trans b.toNat_lt_size (by decide))

theorem Payload.fits_value (p : Payload) (depth : Nat) : p.value.Fits (depth + 2) := by
  cases p with
  | text s => exact .text s
  | wrapped bs => exact .object (by simpa using fits_bytesValue bs depth)
  | raw bs => exact fits_bytesValue bs (depth + 1)

theorem ListedFile.fits_value (f : ListedFile) (depth : Nat) : f.value.Fits (depth + 1) := by
  refine .object ?_
  simpa using ⟨Value.Fits.text f.name, Value.Fits.bool f.isDirectory, fits_word64 f.size depth,
    fits_word64 f.modified depth⟩

theorem Payload.ofValue?_value (p : Payload) : Payload.ofValue? p.value = some p := by
  cases p with
  | text s => rfl
  | wrapped bs => simp [Payload.value, Payload.ofValue?, Members.last?]
  | raw bs =>
    have back := readBytes?_bytesValue bs
    simp only [bytesValue] at back
    simp [Payload.value, Payload.ofValue?, bytesValue, back]

theorem ListedFile.ofValue?_value (f : ListedFile) : ListedFile.ofValue? f.value = some f := by
  simp [ListedFile.value, ListedFile.ofValue?, ListedFile.ofFields?, ListedFile.fieldNames,
    Fields.lastNamed, Members.last?, List.lookup_cons, required, defaulted, Value.text?, Value.bool?]

theorem readFiles?_files (files : List ListedFile) :
    readFiles? (.array (files.map ListedFile.value)) = some files :=
  mapM_map_of_read ListedFile.ofValue?_value files

namespace Report

theorem fits_value (r : Report) (depth : Nat) : r.value.Fits (depth + 3) := by
  have fields : ∀ m ∈ r.fields, m.2.Fits (depth + 2) := by
    cases r with
    | hostConnected info =>
      simpa [fields] using ⟨fits_hostId info.id _, Value.Fits.text info.ip,
        Value.Fits.text info.userName, Value.Fits.text info.name⟩
    | hostDisconnected host => simpa [fields] using fits_hostId host _
    | terminalAdded host t => simpa [fields] using ⟨fits_hostId host _, fits_terminalId t _⟩
    | terminalOutput t output =>
      simpa [fields] using ⟨fits_terminalId t _, output.fits_value depth⟩
    | terminalClosed host t =>
      cases host with
      | none => simpa [fields] using fits_terminalId t _
      | some host => simpa [fields] using ⟨fits_hostId host _, fits_terminalId t _⟩
    | directoryListing t path files =>
      have listed : (Value.array (files.map ListedFile.value)).Fits (depth + 2) := by
        refine .array fun v mem => ?_
        obtain ⟨f, _, rfl⟩ := List.mem_map.mp mem
        exact f.fits_value depth
      simpa [fields] using ⟨fits_terminalId t _, Value.Fits.text path, listed⟩
  exact .object (List.forall_mem_cons.mpr ⟨.text r.kind, fields⟩)

/-! ### Reading back -/

theorem kind_mem_kinds (r : Report) : r.kind ∈ kinds := by
  cases r <;> simp [kind, kinds]

theorem get?_type_value (r : Report) : r.value.get? "type" = some (.text r.kind) := by
  cases r with
  | terminalClosed host t => cases host <;> rfl
  | _ => rfl

theorem ofMembers?_fields (r : Report) :
    ofMembers? r.kind (("type", .text r.kind) :: r.fields) = some r := by
  cases r with
  | terminalClosed host t =>
    cases host with
    | none => simp [ofMembers?, kind, fields, Members.last?, List.lookup_cons, required, defaulted]
    | some host =>
      have back : readHostIdOrNull? (HostId.value host) = some (some host) :=
        congrArg (Option.map some) (readHostId?_value host)
      simp [ofMembers?, kind, fields, Members.last?, List.lookup_cons, required, defaulted, back]
  | _ =>
    simp [ofMembers?, kind, fields, Members.last?, List.lookup_cons, required, defaulted, Value.text?,
      Payload.ofValue?_value, readFiles?_files]

theorem ofValue_value (r : Report) : ofValue r.value = .ok r := by
  have type : (r.value.get? "type").bind Value.text? = some r.kind := by
    rw [get?_type_value]
    rfl
  have known := r.kind_mem_kinds
  unfold ofValue
  rw [type]
  simp only [value, known, if_true, ofMembers?_fields]

theorem read?_render (r : Report) : Value.read? r.value.render = some r.value :=
  (r.fits_value 124).read?_render

theorem decode_render (r : Report) : decode r.value.render = .ok r := by
  rw [decode, read?_render]
  exact ofValue_value r

/-! ### Kinds -/

theorem kind_of_ofMembers? {kind : String} {members : Members} {r : Report}
    (read : ofMembers? kind members = some r) : r.kind = kind := by
  unfold ofMembers? at read
  split at read <;>
    simp only [Option.bind_eq_bind, Option.bind_eq_some_iff, Option.pure_def, Option.some.injEq,
      reduceCtorEq] at read
  · obtain ⟨_, _, _, _, _, _, _, _, rfl⟩ := read
    rfl
  · obtain ⟨_, _, rfl⟩ := read
    rfl
  · obtain ⟨_, _, _, _, rfl⟩ := read
    rfl
  · obtain ⟨_, _, _, _, rfl⟩ := read
    rfl
  · obtain ⟨_, _, _, _, rfl⟩ := read
    rfl
  · obtain ⟨_, _, _, _, _, _, rfl⟩ := read
    rfl

/-- The `type` of a text that is a report is the kind of the report. -/
theorem type_of_decode {text : String} {r : Report} (decoded : decode text = .ok r) :
    ∃ v, Value.read? text = some v ∧ v.get? "type" = some (.text r.kind) := by
  unfold decode at decoded
  split at decoded
  · rename_i v parsed
    refine ⟨v, parsed, ?_⟩
    unfold ofValue at decoded
    split at decoded
    · rename_i members kind type
      split at decoded
      · split at decoded
        · rename_i report read
          obtain rfl := Except.ok.inj decoded
          rw [kind_of_ofMembers? read]
          obtain ⟨w, found, text⟩ := Option.bind_eq_some_iff.mp type
          cases w <;> cases text
          exact found
        · cases decoded
      · cases decoded
    · cases decoded
  · cases decoded

theorem exists_kind_eq {kind : String} (known : kind ∈ kinds) : ∃ r : Report, r.kind = kind := by
  simp only [kinds, List.mem_cons, List.not_mem_nil, or_false] at known
  rcases known with rfl | rfl | rfl | rfl | rfl | rfl
  · exact ⟨.hostConnected ⟨⟨0⟩, "", "", ""⟩, rfl⟩
  · exact ⟨.hostDisconnected ⟨0⟩, rfl⟩
  · exact ⟨.terminalAdded ⟨0⟩ ⟨0⟩, rfl⟩
  · exact ⟨.terminalOutput ⟨0⟩ (.raw []), rfl⟩
  · exact ⟨.terminalClosed none ⟨0⟩, rfl⟩
  · exact ⟨.directoryListing ⟨0⟩ "" [], rfl⟩

/-! ### The forms of an output -/

/-- The ways in which the bytes of a text can be sent as output: as the text, as an object that
holds them, and bare. -/
def outputForms (s : String) : List Value :=
  [.text s, .object [("bytes", bytesValue (Text.bytes s))], bytesValue (Text.bytes s)]

theorem exists_payload_of_form {s : String} {form : Value} (mem : form ∈ outputForms s) :
    ∃ p : Payload, p.value = form ∧ p.bytes = Text.bytes s := by
  simp only [outputForms, List.mem_cons, List.not_mem_nil, or_false] at mem
  rcases mem with rfl | rfl | rfl
  · exact ⟨.text s, rfl, rfl⟩
  · exact ⟨.wrapped (Text.bytes s), rfl, rfl⟩
  · exact ⟨.raw (Text.bytes s), rfl, rfl⟩

/-- Every report is read back from what is written of it, so a text that is a report can be written
again from it; its `type` is the kind of the report, and every known kind is that of some text. In
whatever form the bytes of a text are sent as output, a desk does the same with them. -/
theorem reports_read_back :
    (∀ r : Report, decode r.value.render = .ok r) ∧
    (∀ text r, decode text = .ok r → decode r.value.render = .ok r ∧
      ∃ v, Value.read? text = some v ∧ v.get? "type" = some (.text r.kind)) ∧
    (∀ kind, kind ∈ kinds ↔ ∃ text r, decode text = .ok r ∧ r.kind = kind) ∧
    ∀ (s : String) (t : TerminalId), ∀ form ∈ outputForms s, ∃ r,
      decode (Value.object [("type", .text "terminal_output"),
        ("terminal_id", TerminalId.value t), ("output", form)]).render = .ok r ∧
      ∀ d, Desk.handleReport r d = Desk.handleReport (.terminalOutput t (.text s)) d := by
  refine ⟨decode_render, fun _ r decoded => ⟨decode_render r, type_of_decode decoded⟩, ?_, ?_⟩
  · intro kind
    constructor
    · intro known
      obtain ⟨r, same⟩ := exists_kind_eq known
      exact ⟨r.value.render, r, decode_render r, same⟩
    · rintro ⟨_, r, _, rfl⟩
      exact r.kind_mem_kinds
  · intro s t form mem
    obtain ⟨p, rfl, bytes⟩ := exists_payload_of_form mem
    refine ⟨.terminalOutput t p, decode_render (.terminalOutput t p), fun d => ?_⟩
    simp only [Desk.handleReport, bytes]
    rfl

end Report

end Switchboard.Wire
