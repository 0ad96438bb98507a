import Mathlib.Data.List.Basic
import Switchboard.Proofs.Number.Digits
import Switchboard.Proofs.Url.Percent
import Switchboard.Remote.Download

/-!
# What the URL of a download names

The query of a download carries the terminal and the path, but a tab or a line end of the path is
left out of it and a percent sign is not escaped. So the path is read back only if it is `Plain`,
and `spaced_path_shares_url` is a URL of two paths.
-/

namespace Switchboard.Remote

open Text

variable {t t' : TerminalId} {path path' : String} {u : Url}

/-- A path without what a query leaves out, and without what is read as an escape. -/
structure Plain (path : String) : Prop where
  kept : ∀ c ∈ path.toList, Url.isIgnored c = false
  unescaped : Url.Unescaped path.toList

/-- What is read in the query for a terminal and a path. -/
def readQuery (t : TerminalId) (path : String) : Bytes :=
  Url.decode (utf8 (Url.withoutIgnored (downloadQuery t path).toList))

/-! ### The terminal in front -/

theorem toList_downloadQuery (t : TerminalId) (path : String) :
    (downloadQuery t path).toList = t.text.toList ++ '&' :: path.toList := by
  simp only [downloadQuery, String.toList_append, List.append_assoc]
  rfl

theorem isDigit_of_mem_text {c : Char} (mem : c ∈ t.text.toList) : c.isDigit = true :=
  Number.isDigit_of_mem_decimal mem

theorem text_injective (same : t.text = t'.text) : t = t' := by
  have first : Number.readDigits UInt32.size 0 t.text.toList = .ok t.number.toNat :=
    Number.readDigits_decimal (Nat.le_of_lt t.number.toNat_lt)
  have second : Number.readDigits UInt32.size 0 t'.text.toList = .ok t'.number.toNat :=
    Number.readDigits_decimal (Nat.le_of_lt t'.number.toNat_lt)
  rw [same, second] at first
  have numbers : t'.number = t.number := UInt32.toNat_inj.mp (Except.ok.inj first)
  cases t
  cases t'
  exact congrArg TerminalId.mk numbers.symm

/-- The number ends where the digits do. -/
theorem downloadQuery_injective (same : downloadQuery t path = downloadQuery t' path') :
    t = t' ∧ path = path' := by
  have digits (t : TerminalId) (path : String) :
      (downloadQuery t path).toList.takeWhile Char.isDigit = t.text.toList := by
    rw [toList_downloadQuery, List.takeWhile_append_of_pos fun _ => isDigit_of_mem_text,
      List.takeWhile_cons_of_neg (by decide), List.append_nil]
  have numbers : t.text = t'.text := by
    rw [← String.toList_inj, ← digits t path, same, digits]
  obtain rfl := text_injective numbers
  have rest := congrArg String.toList same
  rw [toList_downloadQuery, toList_downloadQuery, List.append_right_inj, List.cons.injEq] at rest
  exact ⟨rfl, String.toList_inj.mp rest.2⟩

/-! ### What is read back -/

theorem isIgnored_of_mem_text {c : Char} (mem : c ∈ t.text.toList) : Url.isIgnored c = false := by
  have digit := isDigit_of_mem_text mem
  by_contra ignored
  unfold Url.isIgnored at ignored
  simp only [Bool.not_eq_false, Bool.or_eq_true, beq_iff_eq] at ignored
  obtain (rfl | rfl) | rfl := ignored <;> nomatch digit

theorem kept_downloadQuery (t : TerminalId) (path : String) :
    (∀ c ∈ (downloadQuery t path).toList, Url.isIgnored c = false) ↔
      ∀ c ∈ path.toList, Url.isIgnored c = false := by
  rw [toList_downloadQuery]
  simp only [List.mem_append, List.mem_cons, or_imp, forall_and, forall_eq]
  exact ⟨fun kept => kept.2.2, fun kept => ⟨fun _ => isIgnored_of_mem_text, by decide, kept⟩⟩

theorem unescaped_downloadQuery (t : TerminalId) (path : String) :
    Url.Unescaped (downloadQuery t path).toList ↔ Url.Unescaped path.toList := by
  have absent : '%' ∉ t.text.toList ++ ['&'] := by
    intro mem
    obtain digit | sign := List.mem_append.mp mem
    · nomatch isDigit_of_mem_text digit
    · nomatch List.mem_singleton.mp sign
  rw [toList_downloadQuery, ← List.singleton_append, ← List.append_assoc]
  exact Url.unescaped_append absent

/-- A text is read as itself only if nothing was left out and nothing is an escape. -/
theorem decode_withoutIgnored_eq_iff (cs : List Char) :
    Url.decode (utf8 (Url.withoutIgnored cs)) = utf8 cs ↔
      (∀ c ∈ cs, Url.isIgnored c = false) ∧ Url.Unescaped cs := by
  have whole : Url.withoutIgnored cs = cs ↔ ∀ c ∈ cs, Url.isIgnored c = false := by
    unfold Url.withoutIgnored
    rw [List.filter_eq_self]
    simp only [Bool.not_eq_true']
  constructor
  · intro same
    have sub : (Url.withoutIgnored cs).Sublist cs := List.filter_sublist
    have counted := length_utf8_of_sublist sub
    have read := Url.length_decode_le (utf8 (Url.withoutIgnored cs))
    rw [same] at read
    have kept : Url.withoutIgnored cs = cs := sub.eq_of_length_le (by omega)
    rw [kept] at same
    exact ⟨whole.mp kept, Url.decode_eq_self_iff.mp same⟩
  · rintro ⟨kept, unescaped⟩
    rw [whole.mpr kept]
    exact Url.decode_eq_self_iff.mpr unescaped

theorem readQuery_eq_iff : readQuery t path = bytes (downloadQuery t path) ↔ Plain path := by
  have split := decode_withoutIgnored_eq_iff (downloadQuery t path).toList
  rw [kept_downloadQuery, unescaped_downloadQuery] at split
  exact split.trans ⟨fun ⟨kept, unescaped⟩ => ⟨kept, unescaped⟩,
    fun plain => ⟨plain.kept, plain.unescaped⟩⟩

/-! ### The query of a URL -/

/-- The query of a URL is read as the text it was made of, without what is left out. -/
theorem query_withQuery (u : Url) (text : String) :
    ∃ query, (u.withQuery text).query = some query ∧
      Url.decode (bytes query) = Url.decode (utf8 (Url.withoutIgnored text.toList)) := by
  refine ⟨_, rfl, ?_⟩
  rw [bytes_ofList]
  split
  · exact Url.decode_encode Url.spares_specialQuery _
  · exact Url.decode_encode Url.spares_query _

theorem query_eq_of_text_eq {first second : String}
    (same : (u.withQuery first).text = (u.withQuery second).text) :
    (u.withQuery first).query = (u.withQuery second).query := by
  unfold Url.text at same
  have queries := String.append_right_inj _ |>.mp same
  have texts := String.append_right_inj _ |>.mp queries
  exact congrArg some texts

/-- Whether there is a URL depends on the base alone. It is read as the terminal and the path only
if the path is plain. Two downloads that have one URL are read alike, so plain paths never share
one. -/
theorem download_url_read (base : String) :
    (∃ fault, ∀ t path, downloadUrl base t path = .error fault) ∨
    ∃ url : TerminalId → String → Url, ∀ t path, downloadUrl base t path = .ok (url t path) ∧
      (∃ query, (url t path).query = some query ∧
        Url.decode (bytes query) = readQuery t path ∧
        (decoded? query = some (downloadQuery t path) ↔ Plain path)) ∧
      ∀ t' path', (url t path).text = (url t' path').text →
        readQuery t path = readQuery t' path' ∧
        (Plain path → Plain path' → t = t' ∧ path = path') := by
  cases found : Url.read (directoryBase base) >>= fun u => u.sibling "download" with
  | error e =>
    refine .inl ⟨downloadFault (directoryBase base ++ ": " ++ e.message), fun t path => ?_⟩
    rw [downloadUrl, found]
  | ok u =>
    refine .inr ⟨fun t path => u.withQuery (downloadQuery t path), fun t path => ?_⟩
    obtain ⟨query, carried, read⟩ := query_withQuery u (downloadQuery t path)
    refine ⟨?_, ⟨query, carried, read, ?_⟩, fun t' path' same => ?_⟩
    · rw [downloadUrl, found]
    · rw [decoded?, text?_eq_some_iff, read]
      exact readQuery_eq_iff
    · obtain ⟨query', carried', read'⟩ := query_withQuery u (downloadQuery t' path')
      have queries := query_eq_of_text_eq same
      rw [carried, carried'] at queries
      have alike : readQuery t path = readQuery t' path' := by
        rw [readQuery, ← read, Option.some.inj queries, read', readQuery]
      refine ⟨alike, fun plain plain' => downloadQuery_injective ?_⟩
      rw [readQuery_eq_iff.mpr plain, readQuery_eq_iff.mpr plain'] at alike
      have texts := congrArg text? alike
      rw [text?_bytes, text?_bytes] at texts
      exact Option.some.inj texts

/-- A space is escaped, and the escape of a space is not: two files have one URL, and it is read as
the first of them. -/
theorem spaced_path_shares_url :
    "/a b" ≠ "/a%20b" ∧
    ∃ url query, downloadUrl "http://[::1]:8080" ⟨1⟩ "/a b" = .ok url ∧
      downloadUrl "http://[::1]:8080" ⟨1⟩ "/a%20b" = .ok url ∧
      url.query = some query ∧ decoded? query = some "1&/a b" ∧
      decoded? query ≠ some "1&/a%20b" := by
  let url : Url :=
    { scheme := "http", host := some (.ipv6 ⟨[0, 0, 0, 0, 0, 0, 0, 1]⟩), port := some 8080,
      path := some ["download".toList], query := some "1&/a%20b" }
  have read : decoded? "1&/a%20b" = some "1&/a b" := by decide +kernel
  refine ⟨by decide, url, _, by decide +kernel, by decide +kernel, rfl, read, ?_⟩
  rw [read]
  decide

end Switchboard.Remote
