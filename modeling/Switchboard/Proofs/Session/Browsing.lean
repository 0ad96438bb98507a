import Mathlib.Data.List.Forall2
import Switchboard.Proofs.Remote.Joining
import Switchboard.Session.Basic

/-!
# Down into a directory and up again

A listing shows what the server listed, behind a way up. `browsing_returns`: in a listing of a
directory that was opened by its name, the way up leads back to where it was opened.
-/

namespace Switchboard

namespace Remote

variable {path path' : String} {files files' : List Wire.ListedFile} {e : Entry}

/-- An entry shows what was listed in a directory, with its path. -/
structure Entry.Shows (directory : String) (f : Wire.ListedFile) (e : Entry) : Prop where
  name : e.name = f.name
  kind : e.kind = if f.isDirectory then .directory else .file
  size : e.size = f.size
  modified : e.modified = f.modified
  path : e.path = joinPath directory f.name

/-- An entry is the way up from a directory. -/
structure Entry.LeadsUp (directory : String) (e : Entry) : Prop where
  name : e.name = ".."
  kind : e.kind = .parent
  path : e.path = parentPath directory

theorem Entry.shows_ofListed (directory : String) (f : Wire.ListedFile) :
    (Entry.ofListed directory f).Shows directory f := ⟨rfl, rfl, rfl, rfl, rfl⟩

theorem Entry.leadsUp_parentOf (directory : String) :
    (Entry.parentOf directory).LeadsUp directory := ⟨rfl, rfl, rfl⟩

theorem Entry.navigation_eq (e : Entry) :
    e.navigation = match e.kind with
      | .parent | .directory => .list e.path
      | .file => .download e.path := by
  unfold navigation isDirectory
  cases e.kind <;> rfl

namespace Listing

/-- What was listed stands in its order behind the way up, which there is only below the root. -/
theorem entries_ofFiles (path : String) (files : List Wire.ListedFile) :
    ∃ above listed, (ofFiles path files).entries = above ++ listed ∧
      (if normalize path = root then above = []
        else ∃ e, above = [e] ∧ e.LeadsUp (normalize path)) ∧
      List.Forall₂ (Entry.Shows (normalize path)) files listed := by
  refine ⟨_, _, rfl, ?_, ?_⟩
  · split
    · rfl
    · exact ⟨_, rfl, Entry.leadsUp_parentOf _⟩
  · rw [List.forall₂_map_right_iff, List.forall₂_same]
    exact fun f _ => Entry.shows_ofListed _ f

theorem head_ofFiles (below : normalize path ≠ root) (files : List Wire.ListedFile) :
    ∃ e, (ofFiles path files).entries[0]? = some e ∧ e.LeadsUp (normalize path) := by
  refine ⟨_, ?_, Entry.leadsUp_parentOf _⟩
  simp only [ofFiles, if_neg below, List.singleton_append, List.getElem?_cons_zero]

/-- The way up is not an entry with a name. -/
theorem path_of_isName (mem : e ∈ (ofFiles path files).entries) (named : IsName e.name) :
    e.path = joinPath (normalize path) e.name := by
  rcases List.mem_append.mp mem with above | listed
  · split at above
    · cases above
    · obtain rfl := List.mem_singleton.mp above
      exact absurd rfl named.down
  · obtain ⟨f, _, rfl⟩ := List.mem_map.mp listed
    rfl

theorem parentPath_of_isName (mem : e ∈ (ofFiles path files).entries) (named : IsName e.name) :
    parentPath e.path = normalize path := by
  rw [path_of_isName mem named, named.parentPath_joinPath]
  exact canonical_normalize path

theorem navigate?_eq_none_iff {l : Listing} {index : Nat} :
    l.navigate? index = none ↔ l.entries.length ≤ index := by
  rw [navigate?, Option.map_eq_none_iff, List.getElem?_eq_none_iff]

theorem navigate?_of_entry {l : Listing} {index : Nat} (there : l.entries[index]? = some e) :
    l.navigate? index = some e.navigation := by
  rw [navigate?, there, Option.map_some]

/-- The first entry below the root leads to the directory above. -/
theorem navigate?_zero (below : normalize path ≠ root) (files : List Wire.ListedFile) :
    (ofFiles path files).navigate? 0 = some (.list (parentPath (normalize path))) := by
  obtain ⟨e, first, up⟩ := head_ofFiles below files
  rw [navigate?_of_entry first, Entry.navigation_eq, up.kind, up.path]

end Listing

end Remote

namespace Session

open Remote

theorem navigate?_list (s : Session) (path : String) (files : List Wire.ListedFile) (index : Nat) :
    (s.list path files).navigate? index = (Listing.ofFiles path files).navigate? index := by
  have shown : (s.list path files).listing = some (.ofFiles path files) := rfl
  rw [navigate?, shown, Option.bind_some]

/-- Whatever a session showed before, a listing shows just the files that were listed, in their
order and with canonical paths, behind an entry for the directory above if there is one. The way up
and directories are listed when they are opened, files are downloaded, and nothing else is there to
be opened. An entry with a name lies in the directory that was listed; and if the listing is
replaced by one of that entry's path, however the server writes it, then the first entry is the way
up and leads back. -/
theorem browsing_returns (s : Session) (path : String) (files : List Wire.ListedFile) :
    let shown := s.list path files
    ∃ l, shown.listing = some l ∧ l.path = normalize path ∧
      (∃ above listed, l.entries = above ++ listed ∧
        (if normalize path = root then above = [] else ∃ e, above = [e] ∧ e.LeadsUp l.path) ∧
        List.Forall₂ (Entry.Shows l.path) files listed) ∧
      (∀ e ∈ l.entries, Canonical e.path) ∧
      (∀ i, shown.navigate? i = none ↔ l.entries.length ≤ i) ∧
      (∀ i e, l.entries[i]? = some e → shown.navigate? i = some (match e.kind with
        | .parent | .directory => .list e.path
        | .file => .download e.path)) ∧
      ∀ e ∈ l.entries, IsName e.name → parentPath e.path = l.path ∧
        ∀ path' files', normalize path' = e.path →
          let below := shown.list path' files'
          (∃ l' e', below.listing = some l' ∧ l'.entries[0]? = some e' ∧ e'.LeadsUp e.path) ∧
          below.navigate? 0 = some (.list l.path) := by
  intro shown
  have opened : ∀ i, shown.navigate? i = (Listing.ofFiles path files).navigate? i :=
    navigate?_list s path files
  refine ⟨.ofFiles path files, rfl, rfl, Listing.entries_ofFiles path files,
    (Listing.canonical_ofFiles path files).entries, fun i => ?_, fun i e there => ?_,
    fun e mem named => ?_⟩
  · rw [opened, Listing.navigate?_eq_none_iff]
  · rw [opened, Listing.navigate?_of_entry there, e.navigation_eq]
  · have above := Listing.parentPath_of_isName mem named
    refine ⟨above, fun path' files' same => ?_⟩
    have below : normalize path' ≠ root := by
      rw [same, Listing.path_of_isName mem named]
      exact named.joinPath_ne_root _
    obtain ⟨e', first, up⟩ := Listing.head_ofFiles below files'
    refine ⟨⟨_, e', rfl, first, same ▸ up⟩, ?_⟩
    rw [navigate?_list, Listing.navigate?_zero below, same, above]
    rfl

/-- The server writes the path of the directory with a detour. -/
theorem browsing_returns_from_log :
    let s := (Session.start ⟨7⟩ ⟨1⟩ 4).list "/var/" [⟨"log", true, 0, 0⟩, ⟨"spool", true, 0, 0⟩]
    s.navigate? 1 = some (.list "/var/log") ∧
    (s.list "/var/./log/" []).navigate? 0 = some (.list "/var") := by
  intro s
  obtain ⟨l, listed, -, -, -, -, -, returns⟩ := browsing_returns (Session.start ⟨7⟩ ⟨1⟩ 4) "/var/"
    [⟨"log", true, 0, 0⟩, ⟨"spool", true, 0, 0⟩]
  obtain rfl := Option.some.inj listed
  have named : IsName "log" := ⟨by decide, by decide, by decide, by decide⟩
  have mem : Entry.ofListed "/var" ⟨"log", true, 0, 0⟩ ∈
      (Listing.ofFiles "/var/" [⟨"log", true, 0, 0⟩, ⟨"spool", true, 0, 0⟩]).entries := by decide
  refine ⟨by decide, ?_⟩
  have leads := ((returns _ mem named).2 "/var/./log/" [] (by decide)).2
  exact leads

end Session

end Switchboard
