import Switchboard.Proofs.Session.Browsing
import Switchboard.Proofs.Text.Trim
import Switchboard.Remote.Download

/-!
# Names of downloaded files

A file is kept under the last segment of its remote path, if that can name one.
`download_lands_under_name`: such a name always lies directly in the download directory, a path
without one is refused before anything is asked, and a listed file keeps its name.
`fileName?_eq_nameAtEnd?`: the name is also found in the text, from its end.
-/

namespace Switchboard

namespace Remote

variable {path name dir : String} {seg : Segment} {segs : List Segment}

/-- The name at the end of a path: slashes there are cut off, and what stands behind the last slash
before them is taken. -/
def nameAtEnd? (path : String) : Option String :=
  let seg : Segment := (Wire.withoutEndSlashes path).toList.rtakeWhile (· != '/')
  if seg.isPlain then some (String.ofList seg) else none

/-- A local path continued by another one, which replaces it if it begins at the root. -/
def localPath (dir name : String) : String :=
  if name.toList.head? = some '/' then name
  else if dir = "" ∨ dir.toList.getLast? = some '/' then dir ++ name
  else dir ++ "/" ++ name

/-- The steps of a local path. Where `..` leads is left open, as directories may be links. -/
def components (path : String) : List Segment :=
  (segments path).filter fun seg => seg ≠ [] ∧ seg ≠ here

/-- A path leads to an entry of a directory and not further down or elsewhere. -/
structure DirectlyIn (dir name path : String) : Prop where
  steps : components path = components dir ++ [name.toList]
  start : path.toList.head? = some '/' ↔ dir.toList.head? = some '/'

/-! ### Names -/

theorem isName_ofList (clean : seg.Clean) : IsName (String.ofList seg) := by
  obtain ⟨named, apart, down, whole⟩ := clean_iff.mp clean
  have read {other : Segment} (same : String.ofList seg = String.ofList other) : seg = other :=
    String.ofList_inj.mp same
  exact ⟨fun none => named (read none), by rwa [String.toList_ofList],
    fun dot => apart (read dot), fun dots => down (read dots)⟩

theorem isName_of_fileName? (found : fileName? path = some name) : IsName name := by
  obtain ⟨seg, last, rfl⟩ := Option.map_eq_some_iff.mp found
  obtain ⟨last, plain⟩ := Option.filter_eq_some_iff.mp last
  have mem := List.mem_of_mem_filter (List.mem_of_getLast? last)
  exact isName_ofList ⟨plain, notMem_of_mem_splitOn mem⟩

/-! ### Where a name stands -/

theorem getLast?_filter_of_last {p : Segment → Bool} (last : segs.getLast? = some seg)
    (kept : p seg = true) : (segs.filter p).getLast? = some seg := by
  obtain ⟨init, rfl⟩ := List.getLast?_eq_some_iff.mp last
  rw [List.filter_append, List.filter_singleton, kept]
  exact List.getLast?_concat

theorem fileName?_of_last (last : (segments path).getLast? = some seg) (clean : seg.Clean) :
    fileName? path = some (String.ofList seg) := by
  have named : decide (seg ≠ []) = true := decide_eq_true (clean_iff.mp clean).1
  rw [fileName?, getLast?_filter_of_last last named, Option.filter_some, if_pos clean.plain,
    Option.map_some]

/-- The last segment of a text is what stands behind its last slash. -/
theorem getLast?_splitOn (cs : List Char) :
    (cs.splitOn '/').getLast? = some (cs.rtakeWhile (· != '/')) := by
  by_cases slash : '/' ∈ cs
  · obtain ⟨behind, before, split, whole⟩ :=
      List.eq_append_cons_of_mem (List.mem_reverse.mpr slash)
    have text : cs = before.reverse ++ '/' :: behind.reverse := by
      rw [← List.reverse_reverse cs, split]
      simp
    have kept : ∀ c ∈ behind, (c != '/') = true := fun c mem =>
      bne_iff_ne.mpr fun same => whole (same ▸ mem)
    have taken : cs.rtakeWhile (· != '/') = behind.reverse := by
      rw [List.rtakeWhile, split, List.takeWhile_append_of_pos kept,
        List.takeWhile_cons_of_neg (by decide), List.append_nil]
    rw [taken, text, List.splitOn_append_cons_self,
      Text.splitOn_of_notMem fun mem => whole (List.mem_reverse.mp mem), List.getLast?_concat]
  · have all : ∀ c ∈ cs, (c != '/') = true := fun c mem =>
      bne_iff_ne.mpr fun same => slash (same ▸ mem)
    rw [Text.splitOn_of_notMem slash, List.rtakeWhile_eq_self_iff.mpr all, List.getLast?_singleton]

/-- Slashes at the end make empty segments only. -/
theorem filter_splitOn_append {tail : List Char} (all : ∀ c ∈ tail, c = '/') (cs : List Char) :
    ((cs ++ tail).splitOn '/').filter (· ≠ []) = (cs.splitOn '/').filter (· ≠ []) := by
  induction tail using List.reverseRecOn with
  | nil => rw [List.append_nil]
  | append_singleton tail c ih =>
    obtain rfl : c = '/' := all c (by simp)
    rw [← List.append_assoc, List.splitOn_append_cons_self, List.filter_append,
      ih fun c mem => all c (List.mem_append_left _ mem)]
    exact List.append_nil _

theorem fileName?_withoutEndSlashes (path : String) :
    fileName? (Wire.withoutEndSlashes path) = fileName? path := by
  obtain ⟨tail, text, all⟩ := (Text.trims_trimEnd (· == '/') path).text
  have same := filter_splitOn_append (fun c mem => beq_iff_eq.mp (all c mem))
    (Wire.withoutEndSlashes path).toList
  rw [← String.toList_append, Wire.withoutEndSlashes, ← text] at same
  rw [fileName?, fileName?, segments, segments, same, Wire.withoutEndSlashes]

theorem fileName?_eq_nameAtEnd? (path : String) : fileName? path = nameAtEnd? path := by
  rw [← fileName?_withoutEndSlashes, nameAtEnd?]
  have last := getLast?_splitOn (Wire.withoutEndSlashes path).toList
  have ends := (Text.trims_trimEnd (· == '/') path).ends
  rw [← Wire.withoutEndSlashes] at ends
  generalize Wire.withoutEndSlashes path = body at last ends ⊢
  by_cases none : body.toList.rtakeWhile (· != '/') = []
  · -- Nothing stands behind the last slash, and no slash is at the end.
    have empty : body = "" := by
      by_contra some
      have left : body.toList ≠ [] := fun none => some (String.toList_inj.mp none)
      have slash := ends _ (List.getLast?_eq_some_getLast left)
      have other := List.rtakeWhile_eq_nil_iff.mp none left
      rw [beq_eq_false_iff_ne] at slash
      exact other (bne_iff_ne.mpr slash)
    rw [none, empty]
    decide
  · rw [fileName?, segments, getLast?_filter_of_last last (decide_eq_true none),
      Option.filter_some]
    split <;> rfl

theorem getLast?_joinPath (n : IsName name) (path : String) :
    (segments (joinPath path name)).getLast? = some name.toList := by
  have joined : joinPath path name =
      String.ofList (absolute (resolve (segments path) ++ [name.toList])) := by
    rw [← n.resolve_joinPath path]
    exact (canonical_joinPath path name).symm
  have clean : ∀ x ∈ resolve (segments path) ++ [name.toList], '/' ∉ x := by
    intro x mem
    rcases List.mem_append.mp mem with before | last
    · exact (clean_resolve path x before).whole
    · rw [List.mem_singleton.mp last]
      exact n.whole
  rw [joined, segments_absolute (by simp) clean, ← List.cons_append, List.getLast?_concat]

theorem fileName?_joinPath (n : IsName name) (path : String) :
    fileName? (joinPath path name) = some name := by
  rw [fileName?_of_last (getLast?_joinPath n path) n.clean, String.ofList_toList]

theorem resolve_parentPath (path : String) :
    resolve (segments (parentPath path)) = (resolve (segments path)).dropLast :=
  resolve_absolute fun x mem => clean_resolve path x (List.dropLast_subset _ mem)

/-- Below the root a canonical path is a name behind the directory above. -/
theorem exists_name_of_canonical (canonical : Canonical path) (below : path ≠ root) :
    ∃ name, IsName name ∧ joinPath (parentPath path) name = path := by
  rcases List.eq_nil_or_concat (resolve (segments path)) with none | ⟨outer, last, split⟩
  · refine absurd ?_ below
    rw [← canonical, normalize, none]
    rfl
  · rw [List.concat_eq_append] at split
    have clean : last.Clean := clean_resolve path last (by simp [split])
    have named := isName_ofList clean
    refine ⟨String.ofList last, named, ?_⟩
    calc joinPath (parentPath path) (String.ofList last)
        = normalize (joinPath (parentPath path) (String.ofList last)) :=
          (canonical_joinPath _ _).symm
      _ = normalize path := by
          rw [normalize, named.resolve_joinPath, resolve_parentPath, split, List.dropLast_concat,
            String.toList_ofList, ← split, ← normalize]
      _ = path := canonical

/-! ### Where a file lies -/

theorem components_of_slash (dir name : String) :
    components (dir ++ "/" ++ name) = components dir ++ components name := by
  rw [components, segments_slash, List.filter_append, components, components]

theorem components_of_isName (n : IsName name) : components name = [name.toList] := by
  obtain ⟨named, apart, -, -⟩ := clean_iff.mp n.clean
  rw [components, segments_of_whole n.whole, List.filter_singleton]
  simp [named, apart]

theorem components_end_slash (dir : String) : components (dir ++ "/") = components dir := by
  have cut := components_of_slash dir ""
  rw [String.append_empty] at cut
  exact cut.trans (List.append_nil _)

theorem IsName.relative (n : IsName name) : name.toList.head? ≠ Option.some '/' :=
  fun slash => n.whole (List.mem_of_head? slash)

theorem components_localPath (n : IsName name) (dir : String) :
    components (localPath dir name) = components dir ++ [name.toList] := by
  rw [localPath, if_neg n.relative, ← components_of_isName n]
  split
  · rename_i ends
    rcases ends with rfl | slash
    · rw [String.empty_append]
      rfl
    · obtain ⟨outer, split⟩ := List.getLast?_eq_some_iff.mp slash
      have text : dir = String.ofList outer ++ "/" := by
        rw [← String.toList_inj, split]
        simp
      rw [text, components_of_slash, components_end_slash]
  · exact components_of_slash dir name

theorem head?_localPath (n : IsName name) (dir : String) :
    (localPath dir name).toList.head? = some '/' ↔ dir.toList.head? = some '/' := by
  rw [localPath, if_neg n.relative]
  by_cases none : dir = ""
  · rw [if_pos (Or.inl none), none, String.empty_append]
    exact iff_of_false n.relative (by decide)
  · have left : dir.toList ≠ [] := fun empty => none (String.toList_inj.mp empty)
    split <;> simp only [String.toList_append, List.append_assoc,
      List.head?_append_of_ne_nil _ left]

/-! ### Downloads -/

theorem planDownload_of_none (nameless : fileName? path = none) (base : String) (t : TerminalId) :
    planDownload base t path = .error ⟨.downloadFailed, "not a file path: " ++ path⟩ := by
  rw [planDownload, nameless]
  rfl

theorem name_of_finish {e : Errand} {exchange : Exchange} {file : LocalFile}
    (kept : e.finish exchange = .ok file) : file.name = e.fileName := by
  unfold Errand.finish at kept
  dsimp only at kept
  split at kept
  · nomatch kept
  · cases exchange with
    | failed => nomatch kept
    | answered status body =>
      dsimp only at kept
      split at kept
      · nomatch kept
      · rw [← Except.ok.inj kept]

theorem fileName?_of_download {base : String} {t : TerminalId} {exchange : Url → Exchange}
    {file : LocalFile} (kept : download base t path exchange = .ok file) :
    fileName? path = some file.name := by
  unfold download planDownload at kept
  cases found : fileName? path with
  | none =>
    rw [found] at kept
    nomatch kept
  | some name =>
    rw [found] at kept
    cases made : downloadUrl base t path with
    | error fault =>
      rw [made] at kept
      nomatch kept
    | ok url =>
      rw [made] at kept
      exact congrArg some (name_of_finish kept).symm

/-! ### Listed files -/

theorem download_of_listed {s : Session} {directory : String} {files : List Wire.ListedFile}
    {i : Nat} {e : Entry} (there : (Listing.ofFiles directory files).entries[i]? = some e)
    (file : e.kind = .file) (named : IsName e.name) :
    ∃ target, (s.list directory files).navigate? i = some (.download target) ∧
      fileName? target = some e.name := by
  refine ⟨e.path, ?_, ?_⟩
  · rw [Session.navigate?_list, Listing.navigate?_of_entry there, e.navigation_eq, file]
  · rw [Listing.path_of_isName (List.mem_of_getElem? there) named]
    exact fileName?_joinPath named _

/-- The file name of a path is the one at the end of its text. It is a name, so that in whatever
directory the file is kept it lies directly there, and a file is kept under no other. A path without
one is refused before anything is asked, whatever would be answered. A canonical path below the root
has its last segment for a file name, and that leads back to it from the directory above. A file
that is listed with a name is downloaded from a path that has this file name. -/
theorem download_lands_under_name (path : String) :
    fileName? path = nameAtEnd? path ∧
    (∀ name, fileName? path = some name → IsName name ∧
      ∀ dir, DirectlyIn dir name (localPath dir name)) ∧
    (∀ base t exchange file, download base t path exchange = .ok file →
      fileName? path = some file.name) ∧
    (fileName? path = none → ∀ base t,
      planDownload base t path = .error ⟨.downloadFailed, "not a file path: " ++ path⟩ ∧
      ∀ exchange, download base t path exchange =
        .error ⟨.downloadFailed, "not a file path: " ++ path⟩) ∧
    (Canonical path → path ≠ root → ∃ name, fileName? path = some name ∧
      (segments path).getLast? = some name.toList ∧ joinPath (parentPath path) name = path) ∧
    ∀ (s : Session) (directory : String) (files : List Wire.ListedFile) (i : Nat) (e : Entry),
      (Listing.ofFiles directory files).entries[i]? = some e → e.kind = .file → IsName e.name →
      ∃ target, (s.list directory files).navigate? i = some (.download target) ∧
        fileName? target = some e.name := by
  refine ⟨fileName?_eq_nameAtEnd? path, fun name found => ?_, fun _ _ _ _ => fileName?_of_download,
    fun nameless base t => ?_, fun canonical below => ?_, fun _ _ _ _ _ => download_of_listed⟩
  · have named := isName_of_fileName? found
    exact ⟨named, fun dir => ⟨components_localPath named dir, head?_localPath named dir⟩⟩
  · have refused := planDownload_of_none nameless base t
    exact ⟨refused, fun exchange => by rw [download, refused]; rfl⟩
  · obtain ⟨name, named, split⟩ := exists_name_of_canonical canonical below
    have found := fileName?_joinPath named (parentPath path)
    have last := getLast?_joinPath named (parentPath path)
    rw [split] at found last
    exact ⟨name, found, last, split⟩

/-- Of two listed files one has the name of the way up. It is not kept, and the other one is. -/
theorem download_lands_under_name_of_two :
    let files : List Wire.ListedFile := [⟨"..", false, 1, 0⟩, ⟨"my report", false, 3, 0⟩]
    let s := (Session.start ⟨7⟩ ⟨1⟩ 4).list "/srv/" files
    (fileName? "/srv/.." = none ∧ planDownload "http://h" ⟨1⟩ "/srv/.." =
      .error ⟨.downloadFailed, "not a file path: /srv/.."⟩) ∧
    (download "http://[::1]:80" ⟨1⟩ "/srv/my report" (fun _ => .answered 200 [97]) =
        .ok ⟨"my report", [97]⟩ ∧
      DirectlyIn "/tmp/in/" "my report" (localPath "/tmp/in/" "my report")) ∧
    (Canonical "/srv/my report" ∧ ∃ name, fileName? "/srv/my report" = some name ∧
      joinPath (parentPath "/srv/my report") name = "/srv/my report") ∧
    ∃ target, s.navigate? 2 = some (.download target) ∧ fileName? target = some "my report" := by
  intro files s
  have nameless : fileName? "/srv/.." = none := by decide
  have kept : download "http://[::1]:80" ⟨1⟩ "/srv/my report" (fun _ => .answered 200 [97]) =
      .ok ⟨"my report", [97]⟩ := by decide +kernel
  have canonical : Canonical "/srv/my report" := by rw [Canonical]; decide
  have named : IsName "my report" := ⟨by decide, by decide, by decide, by decide⟩
  obtain ⟨-, -, -, refused, -⟩ := download_lands_under_name "/srv/.."
  obtain ⟨-, inside, keeps, -, leads, listed⟩ := download_lands_under_name "/srv/my report"
  obtain ⟨name, same, -, back⟩ := leads canonical (by decide)
  exact ⟨⟨nameless, (refused nameless _ _).1⟩,
    ⟨kept, (inside _ (keeps _ _ _ _ kept)).2 _⟩,
    ⟨canonical, name, same, back⟩,
    listed (Session.start ⟨7⟩ ⟨1⟩ 4) "/srv/" files 2
      (Entry.ofListed "/srv" ⟨"my report", false, 3, 0⟩) (by decide) rfl named⟩

end Remote

end Switchboard
