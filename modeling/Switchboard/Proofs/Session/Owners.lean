import Switchboard.Proofs.Keyed
import Switchboard.Session.Basic

/-!
# Owners of sessions

Which sessions there are, and on which host each runs, after each change of the sessions.
-/

namespace Switchboard

namespace Sessions

variable {ss : Sessions} {t u : TerminalId} {host : HostId} {s : Session}

/-- The host on which a live terminal runs. -/
def owner? (ss : Sessions) (t : TerminalId) : Option HostId := (ss.get? t).map Session.host

theorem id_of_get? (found : ss.get? t = some s) : s.id = t := key_of_find? found

theorem mem_of_get? (found : ss.get? t = some s) : s ∈ ss.live := List.mem_of_find?_eq_some found

theorem get?_of_mem (distinct : ss.ids.Nodup) (mem : s ∈ ss.live) : ss.get? s.id = some s :=
  find?_key_of_mem distinct mem

theorem contains_eq (ss : Sessions) (t : TerminalId) : ss.contains t = (ss.owner? t).isSome := by
  simp [contains, owner?]

theorem mem_ids : t ∈ ss.ids ↔ ss.contains t = true := by
  simp [ids, contains, get?, List.find?_isSome]

/-! ### After a change -/

theorem get?_update (ss : Sessions) (t u : TerminalId) {change : Session → Session}
    (same : ∀ s, (change s).id = s.id) :
    (ss.update t change).get? u = (ss.get? u).map fun s => if u = t then change s else s := by
  have ids : ∀ s : Session, (if s.id = t then change s else s).id = s.id := by
    intro s
    split
    · exact same s
    · rfl
  have moved : (ss.update t change).get? u =
      (ss.get? u).map fun s => if s.id = t then change s else s := find?_key_map ids
  rw [moved]
  cases found : ss.get? u with
  | none => rfl
  | some s => simp [id_of_get? found]

theorem get?_append (ss : Sessions) (t u : TerminalId) (output : Bytes) :
    (ss.append t output).get? u = (ss.get? u).map fun s => if u = t then s.append output else s :=
  get?_update ss t u fun _ => rfl

theorem get?_list (ss : Sessions) (t u : TerminalId) (path : String)
    (files : List Wire.ListedFile) :
    (ss.list t path files).get? u =
      (ss.get? u).map fun s => if u = t then s.list path files else s :=
  get?_update ss t u fun _ => rfl

theorem owner?_update (ss : Sessions) (t u : TerminalId) {change : Session → Session}
    (same : ∀ s, (change s).id = s.id) (kept : ∀ s, (change s).host = s.host) :
    (ss.update t change).owner? u = ss.owner? u := by
  rw [owner?, get?_update ss t u same, owner?, Option.map_map]
  congr 1
  funext s
  simp only [Function.comp_apply]
  split
  · exact kept s
  · rfl

theorem owner?_append (ss : Sessions) (t u : TerminalId) (output : Bytes) :
    (ss.append t output).owner? u = ss.owner? u := owner?_update ss t u (fun _ => rfl) fun _ => rfl

theorem owner?_list (ss : Sessions) (t u : TerminalId) (path : String)
    (files : List Wire.ListedFile) : (ss.list t path files).owner? u = ss.owner? u :=
  owner?_update ss t u (fun _ => rfl) fun _ => rfl

theorem owner?_create (fresh : ss.contains t = false) (host : HostId) (u : TerminalId) :
    (ss.create t host).owner? u = if u = t then some host else ss.owner? u := by
  by_cases same : u = t
  · rw [same, owner?, get?_create_self ss t host fresh]
    simp [Session.start]
  · simp [owner?, get?_create_of_ne ss host same, same]

theorem owner?_destroy (ss : Sessions) (t u : TerminalId) :
    (ss.destroy t).owner? u = if u = t then none else ss.owner? u := by
  by_cases same : u = t
  · simp [owner?, same]
  · simp [owner?, get?_destroy_of_ne ss same, same]

theorem destroy_eq_self (unlive : ss.contains t = false) : ss.destroy t = ss := by
  have kept : ss.live.filter (·.id ≠ t) = ss.live := by
    rw [List.filter_eq_self]
    simpa [contains, get?] using unlive
  rw [destroy, kept]

theorem update_eq_self (unlive : ss.contains t = false) (change : Session → Session) :
    ss.update t change = ss := by
  have kept : (ss.live.map fun s => if s.id = t then change s else s) = ss.live := by
    rw [List.map_congr_left (g := fun s => s), List.map_id']
    intro s mem
    have other : s.id ≠ t := by
      rintro rfl
      simpa [unlive] using mem_ids.mp (List.mem_map_of_mem mem)
    simp [other]
  rw [update, kept]

theorem ids_update (ss : Sessions) (t : TerminalId) {change : Session → Session}
    (same : ∀ s, (change s).id = s.id) : (ss.update t change).ids = ss.ids := by
  simp only [ids, update, List.map_map, List.map_inj_left, Function.comp_apply]
  intro s _
  split
  · exact same s
  · rfl

theorem nodup_ids_create (distinct : ss.ids.Nodup) (t : TerminalId) (host : HostId) :
    (ss.create t host).ids.Nodup := by
  unfold create
  split
  · exact distinct
  · rename_i fresh
    simp only [ids, List.map_append, List.map_cons, List.map_nil, Session.start]
    rw [List.nodup_append]
    refine ⟨distinct, by simp, ?_⟩
    intro u hu v hv
    rw [List.mem_singleton.mp hv]
    rintro rfl
    exact fresh (mem_ids.mp hu)

theorem nodup_ids_destroy (distinct : ss.ids.Nodup) (t : TerminalId) : (ss.destroy t).ids.Nodup :=
  distinct.sublist (List.filter_sublist.map Session.id)

end Sessions

end Switchboard
