import Switchboard.Options.Basic
import Switchboard.Proofs.Text.Trim

/-!
# The server of a URL

The address of the web socket and that of the HTTP origin are made of one URL, each by a reading of
its own. `endpoints_of_accepted`: on a URL that is accepted both name the server that the URL names,
if it names one. A scheme alone is accepted too, and then both take the scheme for the server:
`bare_scheme_accepted`.
-/

namespace Switchboard

namespace Wire

variable {url scheme server : String}

/-- A URL is a scheme, the server and slashes at the end, which do not belong to the server. -/
def Addresses (url scheme server : String) : Prop :=
  ∃ tail, url = scheme ++ tail ∧ Text.Trims (· == '/') tail server

/-- The addresses of the web socket and of the HTTP origin are those of the server, and secured if
the scheme is. -/
structure EndpointsOf (scheme server socket origin : String) : Prop where
  secured : scheme = "https://" ∨ scheme = "wss://" →
    socket = "wss://" ++ server ++ "/" ∧ origin = "https://" ++ server
  unsecured : scheme = "http://" ∨ scheme = "ws://" →
    socket = "ws://" ++ server ++ "/" ∧ origin = "http://" ++ server

/-! ### Schemes -/

theorem eq_of_isPrefix_scheme : ∀ a ∈ Options.schemes, ∀ b ∈ Options.schemes,
    a.toList <+: b.toList → a = b := by decide

/-- No scheme is the beginning of another, so a text is read past one scheme only. -/
theorem after?_scheme {a b : String} (listed : a ∈ Options.schemes) (listed' : b ∈ Options.schemes)
    (rest : String) : Text.after? a (b ++ rest) = if a = b then some rest else none := by
  split
  · rename_i same
    rw [Text.after?_eq_some_iff, same]
  · rename_i apart
    refine Option.eq_none_iff_forall_ne_some.mpr fun other read => apart ?_
    have texts := congrArg String.toList (Text.after?_eq_some_iff.mp read)
    rw [String.toList_append, String.toList_append] at texts
    have first : a.toList <+: b.toList ++ rest.toList := ⟨_, texts.symm⟩
    rcases List.prefix_or_prefix_of_prefix first (List.prefix_append _ _) with inside | inside
    · exact eq_of_isPrefix_scheme a listed b listed' inside
    · exact (eq_of_isPrefix_scheme b listed' a listed inside).symm

/-! ### A URL with a server -/

theorem Addresses.withoutEndSlashes_eq (a : Addresses url scheme server) (some : server ≠ "") :
    withoutEndSlashes url = scheme ++ server := by
  obtain ⟨tail, rfl, trims⟩ := a
  exact (trims.append (.inl some)).eq

theorem endpointsOf_of_cut (cut : withoutEndSlashes url = scheme ++ server) :
    EndpointsOf scheme server (socketUrl url) (httpOrigin url) := by
  constructor <;> rintro (rfl | rfl) <;>
    simp (disch := decide) [socketUrl, httpOrigin, cut, after?_scheme]

/-! ### A URL without a server -/

/-- With the slashes at the end go those of the scheme. -/
theorem Addresses.withoutEndSlashes_bare (a : Addresses url scheme "") :
    withoutEndSlashes url = withoutEndSlashes scheme := by
  obtain ⟨tail, rfl, trims⟩ := a
  obtain ⟨slashes, rfl, all⟩ := trims.text
  rw [String.empty_append]
  exact Text.trimEnd_append_of_all scheme all

theorem endpoints_scheme : ∀ scheme ∈ Options.schemes,
    socketUrl scheme = "ws://" ++ withoutEndSlashes scheme ++ "/" ∧
    httpOrigin scheme = withoutEndSlashes scheme := by decide

/-- What is left of the scheme is taken for the name of a host. -/
theorem Addresses.endpoints_bare (a : Addresses url scheme "")
    (listed : scheme ∈ Options.schemes) :
    socketUrl url = "ws://" ++ withoutEndSlashes scheme ++ "/" ∧
      httpOrigin url = withoutEndSlashes scheme := by
  have own := endpoints_scheme scheme listed
  have cut := a.withoutEndSlashes_bare
  simp only [socketUrl, httpOrigin, cut] at own ⊢
  exact own

theorem secured_or_unsecured : ∀ scheme ∈ Options.schemes,
    (scheme = "https://" ∨ scheme = "wss://") ∨ scheme = "http://" ∨ scheme = "ws://" := by
  decide

/-- The origin of a server that is empty would end with the slashes of its scheme. -/
theorem not_endpointsOf_bare (listed : scheme ∈ Options.schemes) (socket : String) :
    ¬ EndpointsOf scheme "" socket (withoutEndSlashes scheme) := by
  intro endpoints
  have ends := (Text.trims_trimEnd (· == '/') scheme).ends '/'
  rw [← withoutEndSlashes] at ends
  rcases secured_or_unsecured scheme listed with kind | kind
  · rw [(endpoints.secured kind).2] at ends
    exact absurd (ends rfl) (by decide)
  · rw [(endpoints.unsecured kind).2] at ends
    exact absurd (ends rfl) (by decide)

end Wire

namespace Options

open Wire

variable {o : Options}

theorem exists_scheme_of_validate (accepted : o.validate = .ok ()) :
    ∃ scheme ∈ schemes, ∃ tail, o.url = scheme ++ tail := by
  unfold validate at accepted
  split at accepted
  · nomatch accepted
  · rename_i supported
    rw [Bool.not_eq_true, Bool.not_eq_false', List.any_eq_true] at supported
    obtain ⟨scheme, listed, begins⟩ := supported
    obtain ⟨tail, read⟩ := Option.isSome_iff_exists.mp begins
    exact ⟨scheme, listed, tail, Text.after?_eq_some_iff.mp read⟩

/-- An accepted URL is one of the schemes, a server and slashes. However it is read so, the web
socket and the HTTP origin are those of the server, secured if the scheme is, exactly if the server
is not empty. Otherwise what is left of the scheme is taken for the server, and the web socket is
not secured. -/
theorem endpoints_of_accepted (accepted : o.validate = .ok ()) :
    (∃ scheme ∈ schemes, ∃ server, Addresses o.url scheme server) ∧
    ∀ scheme ∈ schemes, ∀ server, Addresses o.url scheme server →
      (EndpointsOf scheme server o.socketUrl o.httpOrigin ↔ server ≠ "") ∧
      (server = "" → o.socketUrl = "ws://" ++ withoutEndSlashes scheme ++ "/" ∧
        o.httpOrigin = withoutEndSlashes scheme) := by
  constructor
  · obtain ⟨scheme, listed, tail, split⟩ := exists_scheme_of_validate accepted
    exact ⟨scheme, listed, _, tail, split, Text.trims_trimEnd _ tail⟩
  · intro scheme listed server a
    refine ⟨⟨fun endpoints none => ?_, fun some => ?_⟩, fun none => ?_⟩
    · rw [none] at a endpoints
      rw [show o.httpOrigin = _ from (a.endpoints_bare listed).2] at endpoints
      exact not_endpointsOf_bare listed _ endpoints
    · exact endpointsOf_of_cut (a.withoutEndSlashes_eq some)
    · rw [none] at a
      exact a.endpoints_bare listed

theorem endpoints_of_accepted_with_slashes :
    let o : Options := { url := "https://term.example.com//" }
    o.validate = .ok () ∧ Addresses o.url "https://" "term.example.com" ∧
      EndpointsOf "https://" "term.example.com" o.socketUrl o.httpOrigin := by
  intro o
  have accepted : o.validate = .ok () := by decide
  have a : Addresses o.url "https://" "term.example.com" :=
    ⟨"term.example.com//", rfl, Text.trimEnd_eq_iff.mp (by decide)⟩
  have endpoints := ((endpoints_of_accepted accepted).2 _ (by decide) _ a).1
  exact ⟨accepted, a, endpoints.mpr (by decide)⟩

/-- A secured scheme alone is accepted. The web socket is then that of a host with the name of the
scheme, and not secured; no server stands in the URL to which the end points could lead. -/
theorem bare_scheme_accepted :
    let o : Options := { url := "https://" }
    o.validate = .ok () ∧ o.socketUrl = "ws://https:/" ∧ o.httpOrigin = "https:" ∧
      ¬ ∃ scheme ∈ schemes, ∃ server, server ≠ "" ∧ Addresses o.url scheme server ∧
        EndpointsOf scheme server o.socketUrl o.httpOrigin := by
  intro o
  refine ⟨by decide, by decide, by decide, ?_⟩
  rintro ⟨scheme, listed, server, some, ⟨tail, split, trims⟩, -⟩
  have read := Text.after?_eq_some_iff.mpr split
  rw [show o.url = "https://" ++ "" from rfl, after?_scheme listed (by decide)] at read
  split at read
  · obtain rfl := Option.some.inj read
    exact some (trims.eq.symm.trans (by decide))
  · nomatch read

end Options

end Switchboard
