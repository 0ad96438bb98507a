import Switchboard.Proofs.Text.Words
import Switchboard.Remote.Listing

/-!
# Canonical paths

A path is canonical if normalizing it changes nothing. `canonical_iff`: those are the paths that
write a list of plain segments. Every path that is made is one of them, whatever text it is made of,
and so are the paths of a listing.
-/

namespace Switchboard.Remote

variable {seg : Segment} {segs trail : List Segment}

def Canonical (path : String) : Prop := normalize path = path

/-- A segment as it stands in a canonical path. -/
structure Segment.Clean (seg : Segment) : Prop where
  plain : seg.isPlain = true
  whole : '/' ∉ seg

/-! ### Reading segments -/

theorem notMem_of_mem_splitOn {cs : List Char} (mem : seg ∈ cs.splitOn '/') : '/' ∉ seg :=
  fun slash => absurd (Text.eq_false_of_mem_splitOnP mem '/' slash) (by decide)

theorem clean_descend (clean : ∀ x ∈ trail, x.Clean) (whole : '/' ∉ seg) :
    ∀ x ∈ descend trail seg, x.Clean := by
  unfold descend
  split
  · exact clean
  · rename_i named
    split
    · exact fun x mem => clean x (List.mem_of_mem_tail mem)
    · rename_i down
      have plain := isPlain_iff.mpr ⟨fun e => named (Or.inl e), fun e => named (Or.inr e), down⟩
      exact List.forall_mem_cons.mpr ⟨⟨plain, whole⟩, clean⟩

theorem clean_foldl_descend (whole : ∀ x ∈ segs, '/' ∉ x) (clean : ∀ x ∈ trail, x.Clean) :
    ∀ x ∈ segs.foldl descend trail, x.Clean := by
  induction segs generalizing trail with
  | nil => exact clean
  | cons seg segs ih =>
    obtain ⟨first, rest⟩ := List.forall_mem_cons.mp whole
    exact ih rest (clean_descend clean first)

theorem clean_resolve (path : String) : ∀ x ∈ resolve (segments path), x.Clean := by
  intro x mem
  refine clean_foldl_descend (fun x inside => notMem_of_mem_splitOn inside) ?_ x
    (List.mem_reverse.mp mem)
  exact fun x none => absurd none List.not_mem_nil

/-! ### Writing segments -/

theorem foldl_descend_of_plain (plain : ∀ x ∈ segs, x.isPlain = true) (trail : List Segment) :
    segs.foldl descend trail = segs.reverse ++ trail := by
  induction segs generalizing trail with
  | nil => rfl
  | cons seg segs ih =>
    obtain ⟨first, rest⟩ := List.forall_mem_cons.mp plain
    rw [List.foldl_cons, descend_of_isPlain trail first, ih rest, List.reverse_cons,
      List.append_assoc, List.singleton_append]

theorem resolve_of_plain (plain : ∀ x ∈ segs, x.isPlain = true) : resolve segs = segs := by
  rw [resolve, foldl_descend_of_plain plain, List.append_nil, List.reverse_reverse]

theorem resolve_cons_empty (segs : List Segment) : resolve ([] :: segs) = resolve segs := by
  rw [resolve, List.foldl_cons, descend_empty, resolve]

theorem intercalate_eq (seg : Segment) (segs : List Segment) :
    ['/'].intercalate (seg :: segs) = seg ++ segs.flatMap ('/' :: ·) := by
  induction segs generalizing seg with
  | nil => simp
  | cons next segs ih => simp [List.intercalate_cons_cons, ih]

theorem segments_absolute (some : segs ≠ []) (whole : ∀ x ∈ segs, '/' ∉ x) :
    segments (String.ofList (absolute segs)) = [] :: segs := by
  have written : absolute segs = ['/'].intercalate ([] :: segs) := by
    rw [absolute, if_neg some, intercalate_eq, List.nil_append]
  rw [segments, String.toList_ofList, written]
  refine List.splitOn_intercalate '/' ?_ (List.cons_ne_nil _ _)
  exact List.forall_mem_cons.mpr ⟨List.not_mem_nil, whole⟩

theorem resolve_absolute (clean : ∀ x ∈ segs, x.Clean) :
    resolve (segments (String.ofList (absolute segs))) = segs := by
  by_cases empty : segs = []
  · subst empty
    rfl
  · rw [segments_absolute empty fun x mem => (clean x mem).whole, resolve_cons_empty,
      resolve_of_plain fun x mem => (clean x mem).plain]

theorem canonical_absolute (clean : ∀ x ∈ segs, x.Clean) :
    Canonical (String.ofList (absolute segs)) := by
  rw [Canonical, normalize, resolve_absolute clean]

/-- A path is canonical if it writes plain segments, each after a slash, or is the root. -/
theorem canonical_iff {path : String} :
    Canonical path ↔ ∃ segs, (∀ x ∈ segs, x.Clean) ∧ path = String.ofList (absolute segs) := by
  constructor
  · exact fun same => ⟨resolve (segments path), clean_resolve path, same.symm⟩
  · rintro ⟨segs, clean, rfl⟩
    exact canonical_absolute clean

/-! ### The paths that are made -/

theorem canonical_root : Canonical root := by
  refine canonical_iff.mpr ⟨[], fun x mem => absurd mem List.not_mem_nil, ?_⟩
  decide

theorem canonical_normalize (path : String) : Canonical (normalize path) :=
  canonical_absolute (clean_resolve path)

theorem canonical_joinPath (dir name : String) : Canonical (joinPath dir name) :=
  canonical_normalize _

theorem canonical_parentPath (path : String) : Canonical (parentPath path) :=
  canonical_absolute fun x mem => clean_resolve path x (List.dropLast_subset _ mem)

/-! ### Listings -/

structure Listing.Canonical (l : Listing) : Prop where
  base : Remote.Canonical l.path
  entries : ∀ e ∈ l.entries, Remote.Canonical e.path

def Navigation.path : Navigation → String
  | .list path | .download path => path

theorem Listing.canonical_ofFiles (path : String) (files : List Wire.ListedFile) :
    (Listing.ofFiles path files).Canonical where
  base := canonical_normalize path
  entries e mem := by
    rcases List.mem_append.mp mem with parent | listed
    · split at parent
      · cases parent
      · rw [List.mem_singleton.mp parent]
        exact canonical_parentPath _
    · obtain ⟨f, _, rfl⟩ := List.mem_map.mp listed
      exact canonical_joinPath _ _

theorem Listing.Canonical.navigate {l : Listing} {index : Nat} {n : Navigation}
    (c : l.Canonical) (leads : l.navigate? index = some n) : Remote.Canonical n.path := by
  obtain ⟨e, there, rfl⟩ := Option.map_eq_some_iff.mp leads
  have canonical := c.entries e (List.mem_of_getElem? there)
  unfold Entry.navigation
  split <;> exact canonical

end Switchboard.Remote
