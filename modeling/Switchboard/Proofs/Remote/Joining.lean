import Switchboard.Proofs.Remote.Walk

/-!
# Paths put together

A path that is put together from pieces may be normalized at any piece. `paths_joined`: it makes no
difference, the directory above a path is where `..` leads from it, and from a name that was put
behind a directory the way up leads back. `parentPath_eq_beforeLastSlash`: that directory is also
found in the text, by its last slash.
-/

namespace Switchboard.Remote

variable {cs : List Char} {seg : Segment} {path name : String}

/-- A name that stands in a path as one segment. -/
structure IsName (name : String) : Prop where
  some : name ≠ ""
  whole : '/' ∉ name.toList
  apart : name ≠ "."
  down : name ≠ ".."

/-- The place of the last slash in a text, which is searched from its end. -/
def lastSlash? (cs : List Char) : Option Nat :=
  (cs.reverse.findIdx? (· == '/')).map fun i => cs.length - 1 - i

/-- A path cut off before its last slash. Nothing is left above the root. -/
def beforeLastSlash (path : String) : String :=
  match lastSlash? path.toList with
  | none | some 0 => root
  | some i => String.ofList (path.toList.take i)

/-! ### Segments of a longer path -/

theorem toList_slash (path name : String) :
    (path ++ "/" ++ name).toList = path.toList ++ '/' :: name.toList := by
  simp only [String.toList_append, List.append_assoc]
  rfl

theorem segments_slash (path name : String) :
    segments (path ++ "/" ++ name) = segments path ++ segments name := by
  rw [segments, toList_slash, List.splitOn_append_cons_self, segments, segments]

theorem segments_of_whole (whole : '/' ∉ name.toList) : segments name = [name.toList] :=
  Spells.eq
    { some := List.cons_ne_nil _ _
      whole := List.forall_mem_singleton.mpr whole
      text := (List.intercalate_singleton).symm }

/-- One goes on from where the first path leads. -/
theorem resolve_slash (path name : String) :
    resolve (segments (path ++ "/" ++ name)) =
      ((segments name).foldl descend (resolve (segments path)).reverse).reverse := by
  rw [segments_slash, resolve, resolve, List.foldl_append, List.reverse_reverse]

theorem resolve_normalize (path : String) :
    resolve (segments (normalize path)) = resolve (segments path) :=
  resolve_absolute (clean_resolve path)

theorem joinPath_eq (path name : String) :
    joinPath path name = String.ofList (absolute
      ((segments name).foldl descend (resolve (segments path)).reverse).reverse) := by
  rw [joinPath, normalize, resolve_slash]

theorem joinPath_normalize (path name : String) :
    joinPath (normalize path) name = joinPath path name := by
  rw [joinPath_eq, joinPath_eq, resolve_normalize]

theorem joinPath_joinPath (path name more : String) :
    joinPath (joinPath path name) more = joinPath path (name ++ "/" ++ more) := by
  calc joinPath (joinPath path name) more
      = joinPath (path ++ "/" ++ name) more := joinPath_normalize _ more
    _ = joinPath path (name ++ "/" ++ more) := by simp only [joinPath, String.append_assoc]

/-! ### The way up -/

theorem parentPath_eq_joinPath (path : String) : parentPath path = joinPath path ".." := by
  have dots : segments ".." = [up] := segments_of_whole (by decide)
  rw [joinPath_eq, dots, List.foldl_cons, List.foldl_nil, descend_up,
    List.tail_reverse, List.reverse_reverse, parentPath]

theorem IsName.clean (n : IsName name) : Segment.Clean name.toList := by
  refine clean_iff.mpr
    ⟨fun none => n.some ?_, fun dot => n.apart ?_, fun dots => n.down ?_, n.whole⟩
  · exact String.toList_inj.mp none
  · exact String.toList_inj.mp dot
  · exact String.toList_inj.mp dots

theorem IsName.resolve_joinPath (n : IsName name) (path : String) :
    resolve (segments (joinPath path name)) = resolve (segments path) ++ [name.toList] := by
  rw [joinPath, resolve_normalize, resolve_slash, segments_of_whole n.whole, List.foldl_cons,
    List.foldl_nil, descend_of_isPlain _ n.clean.plain, List.reverse_cons, List.reverse_reverse]

theorem IsName.parentPath_joinPath (n : IsName name) (path : String) :
    parentPath (joinPath path name) = normalize path := by
  rw [parentPath, n.resolve_joinPath, List.dropLast_concat, normalize]

theorem IsName.joinPath_ne_root (n : IsName name) (path : String) : joinPath path name ≠ root := by
  intro top
  have segs := n.resolve_joinPath path
  rw [top, show resolve (segments root) = [] by decide] at segs
  exact List.append_ne_nil_of_right_ne_nil _ (List.cons_ne_nil _ _) segs.symm

/-! ### The last slash -/

theorem lastSlash?_append (whole : '/' ∉ seg) :
    lastSlash? (cs ++ '/' :: seg) = some cs.length := by
  have absent : seg.reverse.findIdx? (· == '/') = none := by
    rw [List.findIdx?_eq_none_iff]
    intro c mem
    rw [beq_eq_false_iff_ne]
    exact fun slash => whole (slash ▸ List.mem_reverse.mp mem)
  have there : (cs ++ '/' :: seg).reverse.findIdx? (· == '/') = some seg.length := by
    rw [List.reverse_append, List.reverse_cons, List.append_assoc, List.findIdx?_append, absent]
    simp [List.findIdx?_cons]
  rw [lastSlash?, there, Option.map_some, List.length_append, List.length_cons]
  congr 1
  omega

theorem beforeLastSlash_of_append (text : path.toList = cs ++ '/' :: seg) (whole : '/' ∉ seg) :
    beforeLastSlash path = if cs = [] then root else String.ofList cs := by
  rw [beforeLastSlash, text, lastSlash?_append whole]
  cases cs with
  | nil => rfl
  | cons c cs => exact congrArg String.ofList List.take_left

theorem absolute_concat (segs : List Segment) (seg : Segment) :
    absolute (segs ++ [seg]) = segs.flatMap ('/' :: ·) ++ '/' :: seg := by
  rw [absolute, if_neg (List.append_ne_nil_of_right_ne_nil _ (List.cons_ne_nil _ _)),
    List.flatMap_append, List.flatMap_singleton]

/-- To leave out the last segment is to cut off the text at its last slash. -/
theorem beforeLastSlash_absolute {segs : List Segment} (clean : ∀ x ∈ segs, x.Clean) :
    beforeLastSlash (String.ofList (absolute segs)) = String.ofList (absolute segs.dropLast) := by
  rcases List.eq_nil_or_concat segs with rfl | ⟨outer, last, rfl⟩
  · rfl
  · rw [List.concat_eq_append] at clean ⊢
    have whole : '/' ∉ last := (clean last (by simp)).whole
    rw [beforeLastSlash_of_append (by rw [String.toList_ofList, absolute_concat]) whole,
      List.dropLast_concat]
    cases outer with
    | nil => rfl
    | cons first outer => rfl

theorem parentPath_eq_beforeLastSlash (path : String) :
    parentPath path = beforeLastSlash (normalize path) :=
  (beforeLastSlash_absolute (clean_resolve path)).symm

/-- Normalizing what stands before a slash early makes no difference, however far the rest climbs,
and three pieces may be put together in either order. The directory above a path is where `..` leads
from it, and what stands before the last slash of the normalized path. Above a name behind a
canonical directory is that directory. -/
theorem paths_joined (a b c : String) :
    joinPath a b = joinPath (normalize a) b ∧
    joinPath (joinPath a b) c = joinPath a (b ++ "/" ++ c) ∧
    parentPath a = joinPath a ".." ∧
    parentPath a = beforeLastSlash (normalize a) ∧
    (Canonical a → IsName b → parentPath (joinPath a b) = a) :=
  ⟨(joinPath_normalize a b).symm, joinPath_joinPath a b c, parentPath_eq_joinPath a,
    parentPath_eq_beforeLastSlash a,
    fun canonical named => (named.parentPath_joinPath a).trans canonical⟩

theorem paths_joined_below_var :
    Canonical "/var" ∧ IsName "log" ∧ parentPath (joinPath "/var" "log") = "/var" := by
  have canonical : Canonical "/var" := by rw [Canonical]; decide
  have named : IsName "log" := ⟨by decide, by decide, by decide, by decide⟩
  exact ⟨canonical, named, (paths_joined "/var" "log" "").2.2.2.2 canonical named⟩

end Switchboard.Remote
