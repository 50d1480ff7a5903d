import Mathlib.Data.List.Basic
import Mathlib.Data.List.TakeWhile
import Passage.Proofs.Url.Percent
import Passage.Url.Basic

/-!
# The end of a URL's text

What is appended to the text of a URL of the web belongs to its fragment if it has one, and
else to its query if it has one of these. All that is in front of query and fragment is read
without them, so it stays the same.
-/

namespace Passage.Url

/-! ## Splitting a text that grows -/

/-- A part of a text behind its mark, if there is such a part. -/
def marked (mark : Char) (part : Option (List Char)) : List Char := part.elim [] (mark :: ·)

@[simp] theorem marked_none (mark : Char) : marked mark none = [] := rfl

@[simp] theorem marked_some (mark : Char) (part : List Char) :
    marked mark (some part) = mark :: part :=
  rfl

theorem exists_marked (mark : Char) (s : List Char) :
    ∃ front part, s = front ++ marked mark part ∧ mark ∉ front := by
  by_cases h : mark ∈ s
  · obtain ⟨front, part, rfl, hf⟩ := List.eq_append_cons_of_mem h
    exact ⟨front, some part, rfl, hf⟩
  · exact ⟨s, none, (List.append_nil s).symm, h⟩

theorem ne_of_not_mem {mark : Char} {s : List Char} (h : mark ∉ s) :
    ∀ c ∈ s, decide (c ≠ mark) = true := by
  intro c hc
  simpa using ne_of_mem_of_not_mem hc h

theorem splitAtMark_marked {mark : Char} {front : List Char} (h : mark ∉ front)
    (part : Option (List Char)) : splitAtMark mark (front ++ marked mark part) = (front, part) := by
  have hf := ne_of_not_mem h
  rw [splitAtMark, List.dropWhile_append_of_pos hf]
  cases part with
  | none => rw [marked_none, List.dropWhile_nil, List.append_nil]
  | some part =>
    rw [marked_some, List.dropWhile_cons_of_neg (by simp), List.takeWhile_append_of_pos hf,
      List.takeWhile_cons_of_neg (by simp), List.append_nil]

theorem splitScheme?_eq_some {s scheme rest : List Char}
    (h : splitScheme? s = some (scheme, rest)) :
    ∃ front, s = front ++ ':' :: rest ∧ ∀ c ∈ front, isSchemeChar c := by
  unfold splitScheme? at h
  split at h
  · next c cs rest' ht hd =>
    split at h
    · cases h
      refine ⟨s.takeWhile isSchemeChar, ?_, fun c hc => List.mem_takeWhile_imp hc⟩
      rw [← hd, List.takeWhile_append_dropWhile]
    · cases h
  · cases h

theorem splitScheme?_append {s scheme rest : List Char}
    (h : splitScheme? s = some (scheme, rest)) (more : List Char) :
    splitScheme? (s ++ more) = some (scheme, rest ++ more) := by
  obtain ⟨front, rfl, hf⟩ := splitScheme?_eq_some h
  have hcolon : isSchemeChar ':' = false := by decide
  have hsplit : ∀ rest, (front ++ ':' :: rest).takeWhile isSchemeChar = front ∧
      (front ++ ':' :: rest).dropWhile isSchemeChar = ':' :: rest := fun rest => by
    rw [List.takeWhile_append_of_pos hf, List.dropWhile_append_of_pos hf,
      List.takeWhile_cons_of_neg (by simp [hcolon]), List.dropWhile_cons_of_neg (by simp [hcolon]),
      List.append_nil]
    exact ⟨rfl, rfl⟩
  unfold splitScheme? at h ⊢
  rw [(hsplit rest).1, (hsplit rest).2] at h
  rw [List.append_assoc, List.cons_append, (hsplit _).1, (hsplit _).2]
  cases front with
  | nil => cases h
  | cons c cs =>
    simp only [Option.ite_none_right_eq_some, Option.some.injEq, Prod.mk.injEq, and_true] at h ⊢
    exact h

/-! ## What counts in a text that grows -/

theorem isOuter_of_isIgnored {c : Char} (h : isIgnored c) : isOuter c := by
  simp only [isIgnored, Bool.or_eq_true, decide_eq_true_eq] at h
  rcases h with (rfl | rfl) | rfl <;> decide

theorem filter_isIgnored {s : List Char} (h : ∀ c ∈ s, isOuter c = false) :
    s.filter (!isIgnored ·) = s := by
  rw [List.filter_eq_self]
  intro c hc
  rw [Bool.not_eq_true', Bool.eq_false_iff]
  exact fun hi => Bool.eq_false_iff.mp (h c hc) (isOuter_of_isIgnored hi)

theorem dropWhile_isOuter {s : List Char} (h : ∀ c ∈ s.head?, isOuter c = false) :
    s.dropWhile isOuter = s := by
  cases s with
  | nil => rfl
  | cons c s => exact List.dropWhile_cons_of_neg (by simp [h c rfl])

theorem mem_dropWhile_of_neg {p : Char → Bool} {s : List Char} {c : Char} (hc : c ∈ s)
    (hp : p c = false) : c ∈ s.dropWhile p := by
  rw [← List.takeWhile_append_dropWhile (p := p) (l := s), List.mem_append] at hc
  rcases hc with hc | hc
  · exact absurd (List.mem_takeWhile_imp hc) (by simp [hp])
  · exact hc

theorem mem_significant_iff {s : List Char} {c : Char} (ho : isOuter c = false) :
    c ∈ significant s ↔ c ∈ s := by
  constructor
  · intro hc
    have hback := List.mem_reverse.mp (List.mem_filter.mp hc).1
    have hfront := List.mem_reverse.mp ((List.dropWhile_sublist isOuter).mem hback)
    exact (List.dropWhile_sublist isOuter).mem hfront
  · intro hc
    have hi : isIgnored c = false := Bool.eq_false_iff.mpr fun hi =>
      Bool.eq_false_iff.mp ho (isOuter_of_isIgnored hi)
    have hfront : c ∈ s.dropWhile isOuter := mem_dropWhile_of_neg hc ho
    have hback := mem_dropWhile_of_neg (List.mem_reverse.mpr hfront) ho
    exact List.mem_filter.mpr ⟨List.mem_reverse.mpr hback, by simp [hi]⟩

/-- The text ends in no blank or control character. Tabs and line breaks, which count nowhere in a
URL, may still follow. -/
def EndsPlain (text : List Char) : Prop :=
  (text.filter (!isIgnored ·)).getLast?.all (!isOuter ·)

/-- Nothing that counts is trimmed off the end of such a text. -/
theorem EndsPlain.filter_trimmed {s : List Char} (h : EndsPlain s) :
    ((s.dropWhile isOuter).reverse.takeWhile isOuter).reverse.filter (!isIgnored ·) = [] := by
  have hback : ((s.dropWhile isOuter).reverse.takeWhile isOuter).reverse <:+ s := by
    have hsuffix := List.reverse_suffix.mpr
      (List.takeWhile_prefix isOuter (l := (s.dropWhile isOuter).reverse))
    rw [List.reverse_reverse] at hsuffix
    exact hsuffix.trans (List.dropWhile_suffix isOuter)
  have hcounted := hback.filter (!isIgnored ·)
  by_contra hne
  obtain ⟨c, hc⟩ := Option.ne_none_iff_exists'.mp (mt List.getLast?_eq_none_iff.mp hne)
  obtain ⟨front, hfront⟩ := hcounted
  have hlast : (s.filter (!isIgnored ·)).getLast? = some c :=
    hfront ▸ List.mem_getLast?_append_of_mem_getLast? hc
  have htrimmed := (List.mem_filter.mp (List.mem_of_mem_getLast? hc)).1
  have houter : isOuter c := List.mem_takeWhile_imp (List.mem_reverse.mp htrimmed)
  rw [EndsPlain, hlast, Option.all_some, houter] at h
  cases h

/-- What stands behind a text, without blanks and control characters, counts as a whole. Between the
two is what would be trimmed off the end of that text. -/
theorem significant_append (s : List Char) {more : List Char} (hne : more ≠ [])
    (h : ∀ c ∈ more, isOuter c = false) :
    ∃ gap, significant (s ++ more) = significant s ++ gap ++ more ∧
      (EndsPlain s → gap = []) := by
  have hhead : ∀ c ∈ more.head?, isOuter c = false := fun c hc => h c (List.mem_of_mem_head? hc)
  have hlast : ∀ c ∈ more.reverse.head?, isOuter c = false := fun c hc =>
    h c (List.mem_reverse.mp (List.mem_of_mem_head? hc))
  have hfront : (s ++ more).dropWhile isOuter = s.dropWhile isOuter ++ more := by
    rw [List.dropWhile_append, dropWhile_isOuter hhead]
    cases s.dropWhile isOuter <;> rfl
  have hback : (s.dropWhile isOuter ++ more).reverse.dropWhile isOuter =
      (s.dropWhile isOuter ++ more).reverse := by
    refine dropWhile_isOuter ?_
    rw [List.reverse_append, List.head?_append_of_ne_nil _ (by simpa using hne)]
    exact hlast
  refine ⟨((s.dropWhile isOuter).reverse.takeWhile isOuter).reverse.filter (!isIgnored ·), ?_,
    EndsPlain.filter_trimmed⟩
  rw [significant, significant, hfront, hback, List.reverse_reverse, List.filter_append,
    filter_isIgnored h, ← List.filter_append, ← List.reverse_append,
    List.takeWhile_append_dropWhile, List.reverse_reverse]

/-! ## What is in front of query and fragment -/

/-- The URL with another query and fragment. -/
def withTail (u : Url) (query fragment : Option (List Char)) : Url := { u with query, fragment }

/-- Without a host nothing else of an authority matters. -/
theorem ofAuthority_of_nil (port : Nat) (tail : Url) {authority : List Char} (path : List Char)
    (h : (splitUser authority).2 = []) :
    ofAuthority (.special port) tail authority path = .error .emptyHost := by
  unfold ofAuthority
  generalize splitUser authority = pair at h
  obtain ⟨user, rest⟩ := pair
  obtain rfl : rest = [] := h
  simp only [splitPort, SchemeKind.isSpecial, bind, Except.bind, throw, throwThe,
    MonadExceptOf.throw, decide_true, Bool.true_and, if_true, ite_self]

theorem ofAuthority_withTail (port : Nat) (tail : Url) (query fragment : Option (List Char))
    (authority path : List Char) :
    ofAuthority (.special port) (tail.withTail query fragment) authority path =
      (ofAuthority (.special port) tail authority path).map (·.withTail query fragment) := by
  by_cases hrest : (splitUser authority).2 = []
  · rw [ofAuthority_of_nil port _ path hrest, ofAuthority_of_nil port _ path hrest]
    rfl
  unfold ofAuthority
  generalize splitUser authority = pair at hrest
  obtain ⟨user, rest⟩ := pair
  replace hrest : rest ≠ [] := hrest
  simp only [bind, Except.bind, pure, Except.pure, throw, throwThe, MonadExceptOf.throw,
    SchemeKind.isSpecial, hrest, decide_false, Bool.and_false, Bool.false_and, if_false,
    Bool.true_and, decide_eq_true_eq, Bool.false_eq_true]
  obtain ⟨name, afterColon⟩ := splitPort false rest
  by_cases hname : name = []
  · simp only [if_pos hname, Except.map]
  simp only [if_neg hname, if_true]
  -- the steps on both sides are the same up to the last one
  cases Host.parse name with
  | error e => rfl
  | ok host =>
    cases afterColon with
    | none =>
      simp only [Option.map_none, apply_ite (Except.map _)]
      rfl
    | some portText =>
      simp only [Option.map_some]
      cases port? (portText.takeWhile (· ≠ '\\')) with
      | error e =>
        simp only [apply_ite (Except.map _)]
        rfl
      | ok number =>
        simp only [apply_ite (Except.map _)]
        rfl

theorem scheme_ofAuthority {kind : SchemeKind} {tail u : Url} {authority path : List Char}
    (h : ofAuthority kind tail authority path = .ok u) : u.scheme = tail.scheme := by
  simp only [ofAuthority, bind, Except.bind, pure, Except.pure, throw, throwThe,
    MonadExceptOf.throw] at h
  -- a branch fails or fills in other parts of `tail`
  repeat' split at h
  all_goals first | (cases h; done) | (obtain rfl := Except.ok.inj h; rfl)

theorem scheme_ofFile {tail u : Url} {s : List Char} (h : ofFile tail s = .ok u) :
    u.scheme = tail.scheme := by
  simp only [ofFile, bind, Except.bind, pure, Except.pure] at h
  repeat' split at h
  all_goals first | (cases h; done) | (obtain rfl := Except.ok.inj h; rfl)

theorem scheme_of_parse {text scheme after : List Char} {u : Url} (h : parse text = .ok u)
    (hs : splitScheme? (significant text) = some (scheme, after)) : u.scheme = scheme := by
  unfold parse at h
  simp only [hs] at h
  split at h
  · exact scheme_ofFile h
  · exact scheme_ofAuthority h
  · split at h
    · exact scheme_ofAuthority h
    · obtain rfl := Except.ok.inj h
      rfl
    · obtain rfl := Except.ok.inj h
      rfl

theorem special_of_web {text : List Char} {u : Url} (h : parse text = .ok u) (hw : u.isWeb) :
    ∃ scheme after port, splitScheme? (significant text) = some (scheme, after) ∧
      schemeKind scheme = .special port := by
  cases hs : splitScheme? (significant text) with
  | none =>
    rw [parse, hs] at h
    cases h
  | some pair =>
    obtain ⟨scheme, after⟩ := pair
    have hscheme := scheme_of_parse h hs
    simp only [isWeb, hscheme, Bool.or_eq_true, decide_eq_true_eq] at hw
    rcases hw with rfl | rfl
    · exact ⟨_, after, 80, rfl, by decide⟩
    · exact ⟨_, after, 443, rfl, by decide⟩

/-- Reads what follows the scheme in a URL of a special scheme without query and fragment. -/
def bare (port : Nat) (scheme body : List Char) : Except Fault Url :=
  let rest := body.dropWhile (isSlash true)
  ofAuthority (.special port)
    { scheme, user := [], password := [], host := none, port := none, path := [], query := none,
      fragment := none }
    (rest.takeWhile (!isSlash true ·)) (rest.dropWhile (!isSlash true ·))

/-! ## The parts of a text -/

/-- What counts of a text is a scheme, a body, a query and a fragment. -/
structure HasParts (text scheme body : List Char) (query fragment : Option (List Char)) : Prop where
  split : splitScheme? (significant text) =
    some (scheme, body ++ marked '?' query ++ marked '#' fragment)
  body_query : '?' ∉ body
  front_fragment : '#' ∉ body ++ marked '?' query

theorem HasParts.parse_eq {text scheme body : List Char} {query fragment : Option (List Char)}
    (p : HasParts text scheme body query fragment) {port : Nat}
    (hk : schemeKind scheme = .special port) :
    parse text = (bare port scheme body).map
      (·.withTail (query.map (Percent.encode Percent.specialQueryKeeps))
        (fragment.map (Percent.encode Percent.fragmentKeeps))) := by
  rw [parse, p.split]
  simp only [splitAtMark_marked p.front_fragment, splitAtMark_marked p.body_query, hk,
    SchemeKind.isSpecial, if_true]
  rw [bare, ← ofAuthority_withTail]
  rfl

theorem exists_parts {text scheme after : List Char}
    (hs : splitScheme? (significant text) = some (scheme, after)) :
    ∃ body query fragment, HasParts text scheme body query fragment := by
  obtain ⟨front, fragment, rfl, hf⟩ := exists_marked '#' after
  obtain ⟨body, query, rfl, hq⟩ := exists_marked '?' front
  exact ⟨body, query, fragment, hs, hq, hf⟩

/-- The text of a URL of the web has parts, and a text with another query and fragment is read as
that URL with another query and fragment. -/
theorem parts_of_web {text : List Char} {u : Url} (h : parse text = .ok u) (hw : u.isWeb) :
    ∃ scheme body query fragment, HasParts text scheme body query fragment ∧
      u.query = query.map (Percent.encode Percent.specialQueryKeeps) ∧
      u.fragment = fragment.map (Percent.encode Percent.fragmentKeeps) ∧
      ∀ text' query' fragment', HasParts text' scheme body query' fragment' →
        parse text' = .ok (u.withTail (query'.map (Percent.encode Percent.specialQueryKeeps))
          (fragment'.map (Percent.encode Percent.fragmentKeeps))) := by
  obtain ⟨scheme, after, port, hs, hk⟩ := special_of_web h hw
  obtain ⟨body, query, fragment, p⟩ := exists_parts hs
  rw [p.parse_eq hk] at h
  cases hb : bare port scheme body with
  | error e =>
    rw [hb] at h
    cases h
  | ok b =>
    rw [hb] at h
    obtain rfl := Except.ok.inj h
    refine ⟨scheme, body, query, fragment, p, rfl, rfl, ?_⟩
    intro text' query' fragment' p'
    rw [p'.parse_eq hk, hb]
    rfl

/-! ## Appending -/

namespace HasParts

variable {text scheme body : List Char} {query fragment : Option (List Char)}

theorem append_fragment {f : List Char} (p : HasParts text scheme body query (some f))
    {more : List Char} (hne : more ≠ []) (h : ∀ c ∈ more, isOuter c = false) :
    ∃ f', HasParts (text ++ more) scheme body query (some f') := by
  obtain ⟨gap, hg, -⟩ := significant_append text hne h
  refine ⟨f ++ gap ++ more, ?_, p.body_query, p.front_fragment⟩
  rw [hg, splitScheme?_append (splitScheme?_append p.split gap) more]
  simp only [marked_some, List.append_assoc, List.cons_append]

theorem split_append (p : HasParts text scheme body query none) {more : List Char} (hne : more ≠ [])
    (h : ∀ c ∈ more, isOuter c = false) (hend : EndsPlain text) :
    splitScheme? (significant (text ++ more)) =
      some (scheme, body ++ marked '?' query ++ more) := by
  obtain ⟨gap, hg, hgap⟩ := significant_append text hne h
  rw [hg, hgap hend, List.append_nil, splitScheme?_append p.split more, marked_none,
    List.append_nil]

theorem append_query {q : List Char} (p : HasParts text scheme body (some q) none)
    {more : List Char} (hne : more ≠ []) (h : ∀ c ∈ more, isOuter c = false)
    (hend : EndsPlain text) (hmark : '#' ∉ more) :
    HasParts (text ++ more) scheme body (some (q ++ more)) none where
  split := by
    rw [p.split_append hne h hend]
    simp only [marked_some, marked_none, List.append_assoc, List.cons_append, List.append_nil]
  body_query := p.body_query
  front_fragment := by
    have hf := p.front_fragment
    simp only [marked_some, List.mem_append, List.mem_cons, not_or] at hf ⊢
    exact ⟨hf.1, hf.2.1, hf.2.2, hmark⟩

/-- A first query is appended with its mark. -/
theorem append_mark (p : HasParts text scheme body none none) {q : List Char}
    (h : ∀ c ∈ q, isOuter c = false) (hend : EndsPlain text)
    (hmark : '#' ∉ q) : HasParts (text ++ '?' :: q) scheme body (some q) none where
  split := by
    rw [p.split_append (List.cons_ne_nil _ _) (List.forall_mem_cons.mpr ⟨by decide, h⟩) hend]
    simp only [marked_some, marked_none, List.append_nil]
  body_query := p.body_query
  front_fragment := by
    have hf := p.front_fragment
    simp only [marked_some, marked_none, List.append_nil, List.mem_append, List.mem_cons, not_or]
      at hf ⊢
    exact ⟨hf, by decide, hmark⟩

/-- Where there is no fragment, a question mark is that of the query. -/
theorem mem_mark_iff (p : HasParts text scheme body query none) : '?' ∈ text ↔ query ≠ none := by
  obtain ⟨front, hfront, hs⟩ := splitScheme?_eq_some p.split
  have hnot : '?' ∉ front := fun hc => absurd (hs _ hc) (by decide)
  rw [← mem_significant_iff (show isOuter '?' = false by decide), hfront]
  cases query with
  | none => simp [hnot, p.body_query]
  | some q => simp

end HasParts

/-- The URL with one more parameter in its query. -/
def withParameter (u : Url) (parameter : List Char) : Url :=
  { u with query := some (u.query.elim parameter (· ++ '&' :: parameter)) }

section

variable {text : List Char} {u : Url} (h : parse text = .ok u) (hw : u.isWeb)
include h hw

/-- Behind a fragment everything belongs to it. -/
theorem parse_append_of_fragment (hf : u.fragment ≠ none) {more : List Char} (hne : more ≠ [])
    (hm : ∀ c ∈ more, isOuter c = false) :
    ∃ f, parse (text ++ more) = .ok { u with fragment := some f } := by
  obtain ⟨scheme, body, query, fragment, p, hq, hf', hread⟩ := parts_of_web h hw
  cases fragment with
  | none => exact absurd hf' hf
  | some f =>
    obtain ⟨f', p'⟩ := p.append_fragment hne hm
    refine ⟨f'.flatMap (Percent.encodeChar Percent.fragmentKeeps), ?_⟩
    rw [hread _ _ _ p', ← hq]
    rfl

/-- Without a fragment, what is appended behind a question mark, or behind an ampersand where there
is a question mark already, is a parameter of the query. -/
theorem parse_append_parameter (hf : u.fragment = none)
    (hend : EndsPlain text) {parameter : List Char}
    (hm : ∀ c ∈ parameter, isOuter c = false) (hmark : '#' ∉ parameter) :
    parse (text ++ (if '?' ∈ text then '&' else '?') :: parameter) =
      .ok (u.withParameter (Percent.encode Percent.specialQueryKeeps parameter)) := by
  obtain ⟨scheme, body, query, fragment, p, hq, hf', hread⟩ := parts_of_web h hw
  obtain rfl : fragment = none := Option.map_eq_none_iff.mp (hf'.symm.trans hf)
  cases query with
  | none =>
    rw [if_neg (mt p.mem_mark_iff.mp (not_not_intro rfl)),
      hread _ _ _ (p.append_mark hm hend hmark)]
    simp only [withParameter, withTail, hq, hf, Option.map_none, Option.map_some, Option.elim_none]
  | some q =>
    have hmore : ∀ c ∈ '&' :: parameter, isOuter c = false :=
      List.forall_mem_cons.mpr ⟨by decide, hm⟩
    have hnot : '#' ∉ '&' :: parameter := by simp [hmark]
    rw [if_pos (p.mem_mark_iff.mpr (Option.some_ne_none q)),
      hread _ _ _ (p.append_query (List.cons_ne_nil _ _) hmore hend hnot)]
    simp only [withParameter, withTail, hq, hf, Option.map_none, Option.map_some, Option.elim_some,
      Percent.encode_append]
    rfl

end

end Passage.Url
