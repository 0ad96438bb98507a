import Mathlib.Data.List.Induction
import Switchboard.Proofs.Remote.Path

/-!
# Walks along a path

A path is read from left to right, as by someone who walks from the root: some segments lead
nowhere, `..` leads out of the directory entered last, and every other segment leads into a
directory. `path_walked`: normalizing a path writes the directories that a walk along it has entered
and not left, and it changes nothing exactly if the path has that form already.
-/

namespace Switchboard.Remote

variable {path : String} {seg : Segment} {segs kept read : List Segment}

/-- A path consists of these segments, with slashes between them. -/
structure Spells (path : String) (segs : List Segment) : Prop where
  some : segs ≠ []
  whole : ∀ x ∈ segs, '/' ∉ x
  text : path.toList = ['/'].intercalate segs

/-- A walk from the root: the segments that were read, and the names of the directories that were
entered and not left, outermost first. At the root there is no way up. -/
inductive Walk : List Segment → List Segment → Prop where
  | start : Walk [] []
  | stay {read kept : List Segment} {seg : Segment} (w : Walk read kept)
      (idle : seg = [] ∨ seg = here) : Walk (read ++ [seg]) kept
  | climb {read kept : List Segment} (w : Walk read kept) : Walk (read ++ [up]) kept.dropLast
  | enter {read kept : List Segment} {seg : Segment} (w : Walk read kept) (named : seg ≠ [])
      (apart : seg ≠ here) (down : seg ≠ up) : Walk (read ++ [seg]) (kept ++ [seg])

/-- The form of a canonical path: the root, or names, each behind a slash. -/
def Formed (path : String) : Prop :=
  path = root ∨ ∃ segs ≠ [], (∀ x ∈ segs, x ≠ [] ∧ x ≠ here ∧ x ≠ up ∧ '/' ∉ x) ∧
    path.toList = '/' :: ['/'].intercalate segs

/-! ### Segments of a text -/

theorem spells_segments (path : String) : Spells path (segments path) where
  some := List.splitOnP_ne_nil _ _
  whole := fun _ => notMem_of_mem_splitOn
  text := (List.intercalate_splitOn '/').symm

theorem Spells.eq (s : Spells path segs) : segments path = segs := by
  rw [segments, s.text, List.splitOn_intercalate '/' s.whole s.some]

theorem absolute_eq (segs : List Segment) : absolute segs = '/' :: ['/'].intercalate segs := by
  cases segs with
  | nil => rfl
  | cons seg segs => simp [absolute, intercalate_eq]

/-! ### Where a walk leads -/

theorem resolve_concat (segs : List Segment) (seg : Segment) :
    resolve (segs ++ [seg]) = (descend (resolve segs).reverse seg).reverse := by
  simp [resolve, List.foldl_append]

theorem Walk.eq (w : Walk read kept) : resolve read = kept := by
  induction w with
  | start => rfl
  | stay w idle ih =>
    rw [resolve_concat, ih]
    rcases idle with rfl | rfl <;> simp
  | climb w ih => simp [resolve_concat, ih]
  | enter w named apart down ih =>
    rw [resolve_concat, ih, descend_of_isPlain _ (isPlain_iff.mpr ⟨named, apart, down⟩)]
    simp

theorem walk_resolve (read : List Segment) : Walk read (resolve read) := by
  induction read using List.reverseRecOn with
  | nil => exact .start
  | append_singleton read seg w =>
    by_cases idle : seg = [] ∨ seg = here
    · have stayed := w.stay idle
      rwa [← stayed.eq] at stayed
    · obtain ⟨named, apart⟩ := not_or.mp idle
      by_cases climbs : seg = up
      · subst climbs
        have climbed := w.climb
        rwa [← climbed.eq] at climbed
      · have entered := w.enter named apart climbs
        rwa [← entered.eq] at entered

/-! ### The form of a canonical path -/

theorem clean_iff : seg.Clean ↔ seg ≠ [] ∧ seg ≠ here ∧ seg ≠ up ∧ '/' ∉ seg := by
  constructor
  · rintro ⟨plain, whole⟩
    obtain ⟨named, apart, down⟩ := isPlain_iff.mp plain
    exact ⟨named, apart, down, whole⟩
  · rintro ⟨named, apart, down, whole⟩
    exact ⟨isPlain_iff.mpr ⟨named, apart, down⟩, whole⟩

theorem canonical_iff_formed : Canonical path ↔ Formed path := by
  rw [canonical_iff]
  constructor
  · rintro ⟨segs, clean, rfl⟩
    by_cases none : segs = []
    · subst none
      exact Or.inl (by decide)
    · refine Or.inr ⟨segs, none, fun x mem => clean_iff.mp (clean x mem), ?_⟩
      rw [String.toList_ofList, absolute_eq]
  · rintro (rfl | ⟨segs, some, clean, text⟩)
    · exact canonical_iff.mp canonical_root
    · refine ⟨segs, fun x mem => clean_iff.mpr (clean x mem), ?_⟩
      rw [absolute_eq, ← text, String.ofList_toList]

theorem Formed.getLast?_ne (formed : Formed path) (below : path ≠ root) :
    path.toList.getLast? ≠ some '/' := by
  obtain ⟨segs, some, clean, text⟩ := formed.resolve_left below
  obtain rfl | ⟨outer, last, rfl⟩ := List.eq_nil_or_concat segs
  · exact absurd rfl some
  · obtain ⟨named, -, -, whole⟩ := clean last (by simp)
    have ends : path.toList = outer.flatMap ('/' :: ·) ++ ['/'] ++ last := by
      rw [text, ← absolute_eq, absolute, if_neg some]
      simp
    intro slash
    rw [ends, List.getLast?_append, List.getLast?_eq_some_getLast named, Option.some_or] at slash
    exact whole (Option.some.inj slash ▸ List.getLast_mem named)

/-- Normalizing a path gives the text in which each directory that a walk along its segments entered
and did not leave stands behind a slash; there is one such text. It has the form of a canonical
path, so that it ends with no slash unless it is the root. A path is left as it is exactly if it has
that form, and therefore normalizing twice is normalizing once. -/
theorem path_walked (path : String) :
    (∀ text, normalize path = text ↔ ∃ segs kept, Spells path segs ∧ Walk segs kept ∧
      text.toList = '/' :: ['/'].intercalate kept) ∧
    Formed (normalize path) ∧
    (normalize path = root ∨ (normalize path).toList.getLast? ≠ some '/') ∧
    (normalize path = path ↔ Formed path) ∧
    normalize (normalize path) = normalize path := by
  have formed : Formed (normalize path) := canonical_iff_formed.mp (canonical_normalize path)
  refine ⟨fun text => ?_, formed, ?_, canonical_iff_formed, canonical_normalize path⟩
  · constructor
    · rintro rfl
      refine ⟨_, _, spells_segments path, walk_resolve _, ?_⟩
      rw [normalize, String.toList_ofList, absolute_eq]
    · rintro ⟨segs, kept, spells, walk, written⟩
      rw [normalize, spells.eq, walk.eq, absolute_eq, ← written, String.ofList_toList]
  · by_cases top : normalize path = root
    · exact Or.inl top
    · exact Or.inr (formed.getLast?_ne top)

example : normalize "//a/../../b/./c/" = "/b/c" := by decide

end Switchboard.Remote
