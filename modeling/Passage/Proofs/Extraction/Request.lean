import Passage.Extraction.Exchange
import Passage.Proofs.Config.Validity
import Passage.Proofs.Url.Tail

/-!
# What a request carries

The request for a source is the endpoint's text with the source behind it. A service finds
the source as the last parameter of the query, except where the endpoint has a fragment: then
the source belongs to that fragment, which is not sent.
-/

namespace Passage

/-! ## Parameters of a query -/

namespace Url

/-- The last parameter of the query: its name, and the bytes that its value stands for. -/
def lastParameter? (u : Url) : Option (List Char × List UInt8) :=
  u.query.map fun q =>
    let parameter := (q.reverse.takeWhile (· ≠ '&')).reverse
    let (name, value) := splitAtMark '=' parameter
    (name, Percent.decode (value.getD []))

theorem reverse_takeWhile_of_not_mem {mark : Char} {s : List Char} (h : mark ∉ s)
    (front : List Char) : ((front ++ mark :: s).reverse.takeWhile (· ≠ mark)).reverse = s := by
  have hs := ne_of_not_mem (mt List.mem_reverse.mp h)
  rw [List.reverse_append, List.reverse_cons, List.append_assoc, List.takeWhile_append_of_pos hs,
    List.singleton_append, List.takeWhile_cons_of_neg (by simp), List.append_nil,
    List.reverse_reverse]

theorem lastParameter?_withParameter (u : Url) {name value : List Char} (hn : '=' ∉ name)
    (h : '&' ∉ name ++ '=' :: value) :
    (u.withParameter (name ++ '=' :: value)).lastParameter? =
      some (name, Percent.decode value) := by
  have hsplit : splitAtMark '=' (name ++ '=' :: value) = (name, some value) :=
    splitAtMark_marked hn (some value)
  cases hq : u.query with
  | none =>
    have hall := ne_of_not_mem (mt List.mem_reverse.mp h)
    rw [lastParameter?, withParameter, hq, Option.elim_none, Option.map_some,
      List.takeWhile_eq_self_iff.mpr hall, List.reverse_reverse]
    simp only [hsplit, Option.getD_some]
  | some q =>
    rw [lastParameter?, withParameter, hq, Option.elim_some, Option.map_some,
      reverse_takeWhile_of_not_mem h]
    simp only [hsplit, Option.getD_some]

end Url

instance decidableEqExcept {ε α : Type} [DecidableEq ε] [DecidableEq α] :
    DecidableEq (Except ε α)
  | .ok a, .ok b => decidable_of_iff (a = b) ⟨congrArg Except.ok, Except.ok.inj⟩
  | .error a, .error b => decidable_of_iff (a = b) ⟨congrArg Except.error, Except.error.inj⟩
  | .ok _, .error _ => .isFalse nofun
  | .error _, .ok _ => .isFalse nofun

namespace Extraction

open Text
open Url.Percent (isUnreserved isValueChar isValueChar_of_mem_encode)

theorem requestTarget_withParameter (u : Url) (parameter : List Char) :
    requestTarget (u.withParameter parameter) =
      requestTarget u ++ (if u.query.isSome then '&' else '?') :: parameter := by
  cases hq : u.query with
  | none => simp [requestTarget, Url.withParameter, hq]
  | some q => simp [requestTarget, Url.withParameter, hq]

/-! ## The text of a request -/

/-- The parameter of a request. -/
def linkParameter (link : List Char) : List Char :=
  "url".toList ++ '=' :: Url.Percent.encode isUnreserved link

theorem toList_requestUrl (endpoint link : String) :
    (requestUrl endpoint link).toList =
      endpoint.toList ++
        (if '?' ∈ endpoint.toList then '&' else '?') :: linkParameter link.toList := by
  unfold requestUrl
  rw [String.contains_char_eq]
  by_cases h : '?' ∈ endpoint.toList
  · simp [h, linkParameter]
  · simp [h, linkParameter]

theorem isValueChar_of_mem_parameter {link : List Char} {c : Char} (h : c ∈ linkParameter link) :
    isValueChar c := by
  simp only [linkParameter, List.mem_append, List.mem_cons] at h
  rcases h with h | rfl | h
  · have hname : ∀ c ∈ "url".toList, isValueChar c := by decide
    exact hname c h
  · decide
  · exact isValueChar_of_mem_encode h

theorem isOuter_of_isValueChar {c : Char} (h : isValueChar c) : Url.isOuter c = false := by
  simp only [isValueChar, Url.Percent.specialQueryKeeps, Url.Percent.queryKeeps,
    Url.Percent.isControl, Bool.and_eq_true, Bool.not_eq_true', Bool.or_eq_false_iff,
    decide_eq_false_iff_not, List.mem_cons, not_or] at h
  obtain ⟨⟨-, ⟨⟨hcontrol, -⟩, hspace, -⟩, -⟩, -⟩ := h
  rw [Url.isOuter, decide_eq_false_iff_not]
  intro hle
  have hc : c.toNat = 32 := by omega
  exact hspace (Char.ext (UInt32.toNat_inj.mp hc))

theorem not_mem_linkParameter {mark : Char} (hm : isValueChar mark = false) (link : List Char) :
    mark ∉ linkParameter link :=
  fun h => absurd (isValueChar_of_mem_parameter h) (by simp [hm])

theorem decode_linkParameter (u : Url) (link : List Char) :
    (u.withParameter (linkParameter link)).lastParameter? =
      some ("url".toList, Utf8.encode link) := by
  rw [linkParameter, Url.lastParameter?_withParameter u (by decide)
    (not_mem_linkParameter (by decide) link), Url.Percent.decode_encode (by decide)]

/-! ## What arrives -/

/-- What is sent says what the endpoint says, and then the text as a last parameter `url`. -/
structure Carries (endpoint sent : Url) (text : List Char) : Prop where
  others : sent = { endpoint with query := sent.query }
  target : ∃ parameter, requestTarget sent =
    requestTarget endpoint ++ (if endpoint.query.isSome then '&' else '?') :: parameter
  last : sent.lastParameter? = some ("url".toList, Utf8.encode text)

theorem carries_withParameter (u : Url) (link : List Char) :
    Carries u (u.withParameter (linkParameter link)) link where
  others := rfl
  target := ⟨_, requestTarget_withParameter u _⟩
  last := decode_linkParameter u link

theorem exists_web_of_validate {c : Config} (h : c.validate = .ok ()) :
    ∃ u, Url.parse c.endpoint.toList = .ok u ∧ u.isWeb :=
  (Config.validate_eq_ok_iff.mp h).web

/-- With a valid endpoint every source that can be loaded is asked for. The request carries the
source if the endpoint has no fragment and ends in no blank or control character but tabs and line
breaks: any other one would be kept in front of the parameter. If the endpoint has a fragment, what
travels is what would travel without a source. -/
theorem request_carries_source {c : Config} {source : String} {v : Url} (hc : c.validate = .ok ())
    (hv : webUrl source = .ok v) :
    ∃ u r, Url.parse c.endpoint.toList = .ok u ∧ request c.endpoint source = .ok r ∧
      (u.fragment = none → Url.EndsPlain c.endpoint.toList →
        ∃ sent, Url.parse r.toList = .ok sent ∧ Carries u sent v.text) ∧
      (u.fragment ≠ none →
        ∃ sent, Url.parse r.toList = .ok sent ∧ requestText sent = requestText u) := by
  obtain ⟨u, hu, hw⟩ := exists_web_of_validate hc
  have hm : ∀ d ∈ linkParameter v.text, Url.isOuter d = false := fun d hd =>
    isOuter_of_isValueChar (isValueChar_of_mem_parameter hd)
  refine ⟨u, requestUrl c.endpoint (String.ofList v.text), hu, by rw [request, hv]; rfl, ?_, ?_⟩
  · intro hf hend
    have hkeep : Url.Percent.encode Url.Percent.specialQueryKeeps (linkParameter v.text) =
        linkParameter v.text :=
      Url.Percent.encode_specialQueryKeeps fun d hd => isValueChar_of_mem_parameter hd
    refine ⟨_, ?_, carries_withParameter u v.text⟩
    rw [toList_requestUrl, String.toList_ofList,
      Url.parse_append_parameter hu hw hf hend hm (not_mem_linkParameter (by decide) _), hkeep]
  · intro hf
    have hmore : ∀ d ∈ (if '?' ∈ c.endpoint.toList then '&' else '?') :: linkParameter v.text,
        Url.isOuter d = false := by
      refine List.forall_mem_cons.mpr ⟨?_, hm⟩
      split <;> decide
    obtain ⟨f, h⟩ := Url.parse_append_of_fragment hu hw hf (List.cons_ne_nil _ _) hmore
    refine ⟨{ u with fragment := some f }, ?_, rfl⟩
    rw [toList_requestUrl, String.toList_ofList, h]

/-- The endpoint of the defaults has no fragment and nothing to trim, so its requests carry their
sources. -/
theorem request_carries_source_by_default :
    ∃ v, webUrl "https://example.com/" = .ok v ∧ Config.validate {} = .ok () ∧
      ∃ u r sent, Url.parse ({} : Config).endpoint.toList = .ok u ∧
        request ({} : Config).endpoint "https://example.com/" = .ok r ∧
        Url.parse r.toList = .ok sent ∧ Carries u sent v.text := by
  have hc : Config.validate {} = .ok () := by decide +kernel
  have hv : webUrl "https://example.com/" = .ok
      { scheme := "https".toList, user := [], password := [],
        host := some (.domain "example.com".toList), port := none, path := ['/'], query := none,
        fragment := none } := by decide +kernel
  obtain ⟨u, r, hu, hr, hcarries, -⟩ := request_carries_source hc hv
  have hfragment : u.fragment = none := by
    have hnone : (Url.parse ({} : Config).endpoint.toList).map Url.fragment = .ok none := by
      decide +kernel
    rw [hu] at hnone
    exact Except.ok.inj hnone
  have hend : Url.EndsPlain ({} : Config).endpoint.toList := by
    rw [Url.EndsPlain]
    decide +kernel
  obtain ⟨sent, hsent, hcarried⟩ := hcarries hfragment hend
  exact ⟨_, hv, hc, u, r, sent, hu, hr, hsent, hcarried⟩

/-- A service whose endpoint has a fragment does not receive the source. -/
theorem fragment_hides_source :
    ({ endpoint := "http://127.0.0.1:3000/api/extract#v1" } : Config).validate = .ok () ∧
    (webUrl "https://example.com/").map (String.ofList ·.text) = .ok "https://example.com/" ∧
    (Url.parse
      (requestUrl "http://127.0.0.1:3000/api/extract#v1" "https://example.com/").toList).map
        (fun sent => (requestTarget sent, sent.lastParameter?)) =
      .ok ("/api/extract".toList, none) := by
  refine ⟨by decide +kernel, by decide +kernel, ?_⟩
  rw [toList_requestUrl]
  decide +kernel

end Extraction

end Passage
