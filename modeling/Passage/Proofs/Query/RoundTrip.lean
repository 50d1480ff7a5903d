import Passage.Proofs.Query.Written
import Passage.Query.Term

/-!
# Queries as they are typed

A classified query has a printed form: the required terms, each optional one behind an
`OR`, each excluded one behind a `-`. Parsing undoes printing on the queries for which
these markers cannot be taken for something else, and every parsed query is one of
them unless a plain word of it began with a quote.
-/

namespace Passage.Query

open Text

/-! ## The printed form -/

namespace Term

/-- The text of a term, a wildcard with its `*`. -/
def text (t : Term) : List Char := t.value.toList ++ if t.wildcard then ['*'] else []

def token (t : Term) : Token := ⟨t.kind, String.ofList t.text⟩

def written (t : Term) : List Char := t.token.written

/-- The token of an excluded term. -/
def excludedToken (t : Term) : Token := ⟨.plain, String.ofList ('-' :: t.text)⟩

/-- No `*` of the value can be taken for a wildcard's, and the text keeps together. -/
structure Writable (t : Term) : Prop where
  unbroken : t.kind = .plain → ∀ c ∈ t.text, isBlank c = false
  quotable : t.kind = .phrase → t.text ≠ [] ∧ '"' ∉ t.text
  starless : t.wildcard = false → t.value.toList.getLast? ≠ some '*'

instance (t : Term) : Decidable t.Writable :=
  decidable_of_iff ((t.kind = .plain → ∀ c ∈ t.text, isBlank c = false) ∧
      (t.kind = .phrase → t.text ≠ [] ∧ '"' ∉ t.text) ∧
      (t.wildcard = false → t.value.toList.getLast? ≠ some '*'))
    ⟨fun ⟨a, b, c⟩ => ⟨a, b, c⟩, fun ⟨a, b, c⟩ => ⟨a, b, c⟩⟩

/-- The text of a word that is not excluded cannot be taken for a quote, an exclusion or an `or`. -/
structure Sought (t : Term) : Prop where
  nonempty : t.kind = .plain → t.text ≠ []
  unquoted : t.kind = .plain → t.text.head? ≠ some '"'
  unsigned : t.kind = .plain → t.text.head? ≠ some '-'
  named : t.kind = .plain → lowerAscii t.text ≠ ['o', 'r']

instance (t : Term) : Decidable t.Sought :=
  decidable_of_iff ((t.kind = .plain → t.text ≠ []) ∧ (t.kind = .plain → t.text.head? ≠ some '"') ∧
      (t.kind = .plain → t.text.head? ≠ some '-') ∧
      (t.kind = .plain → lowerAscii t.text ≠ ['o', 'r']))
    ⟨fun ⟨a, b, c, d⟩ => ⟨a, b, c, d⟩, fun ⟨a, b, c, d⟩ => ⟨a, b, c, d⟩⟩

end Term

namespace Classified

/-- The parts of the printed form. -/
def parts (q : Classified) : List (List Char) :=
  q.must.map Term.written ++ q.should.map (fun t => "OR ".toList ++ t.written) ++
    q.not.map (fun t => '-' :: t.written)

def written (q : Classified) : String := String.ofList ([' '].intercalate q.parts)

/-- The queries whose printed form says all about them. -/
structure Printable (q : Classified) : Prop where
  must : ∀ t ∈ q.must, t.Writable ∧ t.Sought
  should : ∀ t ∈ q.should, t.Writable ∧ t.Sought
  not : ∀ t ∈ q.not, t.Writable ∧ t.kind = .plain

instance (q : Classified) : Decidable q.Printable :=
  decidable_of_iff ((∀ t ∈ q.must, t.Writable ∧ t.Sought) ∧ (∀ t ∈ q.should, t.Writable ∧ t.Sought) ∧
      ∀ t ∈ q.not, t.Writable ∧ t.kind = .plain)
    ⟨fun ⟨a, b, c⟩ => ⟨a, b, c⟩, fun ⟨a, b, c⟩ => ⟨a, b, c⟩⟩

end Classified

/-! ## Terms and tokens -/

def orToken : Token := ⟨.plain, "OR"⟩

theorem text_ofText (kind : Kind) (s : List Char) : (Term.ofText kind s).text = s := by
  unfold Term.ofText
  split
  · next h =>
    have hne : s ≠ [] := by
      rintro rfl
      cases h
    rw [List.getLast?_eq_some_getLast hne, Option.some.injEq] at h
    simpa [Term.text, h] using List.dropLast_append_getLast hne
  · simp [Term.text]

theorem kind_ofText (kind : Kind) (s : List Char) : (Term.ofText kind s).kind = kind := by
  unfold Term.ofText
  split <;> rfl

theorem starless_ofText (kind : Kind) (s : List Char) :
    (Term.ofText kind s).wildcard = false → (Term.ofText kind s).value.toList.getLast? ≠ some '*' := by
  unfold Term.ofText
  split
  · nofun
  · next h => simpa using h

/-- A term is read back from its text. -/
theorem ofText_text {t : Term} (h : t.Writable) : Term.ofText t.kind t.text = t := by
  obtain ⟨kind, value, wildcard⟩ := t
  cases wildcard with
  | true => simp [Term.ofText, Term.text]
  | false =>
    have hl := h.starless rfl
    simp [Term.ofText, Term.text, hl]

namespace Term

variable {t : Term}

theorem wellFormed_token (hw : t.Writable) (hs : t.Sought) : t.token.WellFormed := by
  constructor
  · rw [token, String.toList_ofList]
    cases hk : t.kind with
    | plain => exact hs.nonempty hk
    | phrase => exact (hw.quotable hk).1
  · intro hk
    rw [token, String.toList_ofList]
    exact hw.unbroken hk
  · intro hk
    rw [token, String.toList_ofList]
    exact (hw.quotable hk).2

theorem not_opensQuote_token (hs : t.Sought) : ¬ t.token.OpensQuote := by
  intro h
  obtain ⟨hk, hh⟩ := h
  rw [token, String.toList_ofList] at hh
  exact hs.unquoted hk hh

theorem reads_written (hw : t.Writable) (hs : t.Sought) : Token.Reads t.written [t.token] :=
  Token.reads_written (wellFormed_token hw hs) (not_opensQuote_token hs)

theorem reads_optional (hw : t.Writable) (hs : t.Sought) :
    Token.Reads ("OR ".toList ++ t.written) [orToken, t.token] := by
  have hor : Token.Reads "OR".toList [orToken] :=
    Token.reads_word (by decide) (by decide) (by decide)
  exact hor.append (reads_written hw hs)

theorem reads_excluded (hw : t.Writable) (hk : t.kind = .plain) :
    Token.Reads ('-' :: t.written) [t.excludedToken] := by
  have hwritten : t.written = t.text := by
    rw [written, token, hk, Token.written, String.toList_ofList]
  rw [hwritten]
  refine Token.reads_word (List.cons_ne_nil _ _) ?_ (by simp)
  exact List.forall_mem_cons.mpr ⟨by decide, hw.unbroken hk⟩

end Term

/-! ## Classifying one token -/

theorem classifyFrom_or {t : Token} (h : t.isOr) (pending : Bool) (ts : List Token) :
    classifyFrom pending (t :: ts) = classifyFrom true ts := by
  rw [classifyFrom, if_pos h]

/-- A token that is neither an operator nor negated gives a term of the set that awaits one. -/
theorem classifyFrom_sought {t : Token} (ho : t.isOr = false) (hn : t.negated? = none)
    (pending : Bool) (ts : List Token) :
    classifyFrom pending (t :: ts) =
      let q := classifyFrom false ts
      let term := Term.ofText t.kind t.value.toList
      if pending then { q with should := term :: q.should }
      else { q with must := term :: q.must } := by
  rw [classifyFrom, if_neg (by rw [ho]; decide), hn]

theorem classifyFrom_negated {t : Token} {word : List Char} (ho : t.isOr = false)
    (hn : t.negated? = some word) (pending : Bool) (ts : List Token) :
    classifyFrom pending (t :: ts) =
      let q := classifyFrom pending ts
      { q with not := Term.ofText t.kind word :: q.not } := by
  rw [classifyFrom, if_neg (by rw [ho]; decide), hn]

theorem isOr_token {t : Term} (hs : t.Sought) : t.token.isOr = false := by
  rw [Token.isOr, Term.token, String.toList_ofList, Bool.and_eq_false_iff, decide_eq_false_iff_not,
    decide_eq_false_iff_not]
  cases hk : t.kind with
  | plain => exact Or.inr (hs.named hk)
  | phrase => exact Or.inl nofun

theorem negated?_token {t : Term} (hs : t.Sought) : t.token.negated? = none := by
  rw [Token.negated?, Term.token, String.toList_ofList]
  split
  · next hk he =>
    have hne := hs.unsigned hk
    rw [he] at hne
    exact absurd rfl hne
  · rfl

theorem classifyFrom_token {t : Term} (hw : t.Writable) (hs : t.Sought) (pending : Bool)
    (ts : List Token) :
    classifyFrom pending (t.token :: ts) =
      let q := classifyFrom false ts
      if pending then { q with should := t :: q.should } else { q with must := t :: q.must } := by
  have ht : Term.ofText t.token.kind t.token.value.toList = t := by
    rw [Term.token, String.toList_ofList, ofText_text hw]
  rw [classifyFrom_sought (isOr_token hs) (negated?_token hs), ht]

theorem classifyFrom_excludedToken {t : Term} (hw : t.Writable) (hk : t.kind = .plain)
    (pending : Bool) (ts : List Token) :
    classifyFrom pending (t.excludedToken :: ts) =
      let q := classifyFrom pending ts
      { q with not := t :: q.not } := by
  have ho : t.excludedToken.isOr = false := by
    simp [Token.isOr, Term.excludedToken, lowerAscii]
  have hn : t.excludedToken.negated? = some t.text := by
    simp [Token.negated?, Term.excludedToken]
  have ht : Term.ofText t.excludedToken.kind t.text = t := by
    rw [← ofText_text hw, hk, Term.excludedToken, text_ofText]
  rw [classifyFrom_negated ho hn, ht]

/-! ## Parsing the printed form -/

/-- The tokens of the parts of the printed form. -/
def Classified.groups (q : Classified) : List (List Token) :=
  q.must.map (fun t => [t.token]) ++ q.should.map (fun t => [orToken, t.token]) ++
    q.not.map (fun t => [t.excludedToken])

theorem reads_parts {q : Classified} (h : q.Printable) :
    List.Forall₂ Token.Reads q.parts q.groups := by
  have hmap : ∀ {ts : List Term} {f : Term → List Char} {g : Term → List Token},
      (∀ t ∈ ts, Token.Reads (f t) (g t)) → List.Forall₂ Token.Reads (ts.map f) (ts.map g) := by
    intro ts f g hts
    rw [List.forall₂_map_left_iff, List.forall₂_map_right_iff, List.forall₂_same]
    exact hts
  refine List.rel_append (List.rel_append (hmap ?_) (hmap ?_)) (hmap ?_)
  · intro t ht
    exact Term.reads_written (h.must t ht).1 (h.must t ht).2
  · intro t ht
    exact Term.reads_optional (h.should t ht).1 (h.should t ht).2
  · intro t ht
    exact Term.reads_excluded (h.not t ht).1 (h.not t ht).2

theorem classifyFrom_must {ts : List Term} (h : ∀ t ∈ ts, t.Writable ∧ t.Sought)
    (rest : List Token) :
    classifyFrom false ((ts.map fun t => [t.token]).flatten ++ rest) =
      let q := classifyFrom false rest
      { q with must := ts ++ q.must } := by
  induction ts with
  | nil => rfl
  | cons t ts ih =>
    obtain ⟨⟨hw, hs⟩, hts⟩ := List.forall_mem_cons.mp h
    rw [List.map_cons, List.flatten_cons, List.append_assoc, List.singleton_append,
      classifyFrom_token hw hs, ih hts]
    rfl

theorem classifyFrom_should {ts : List Term} (h : ∀ t ∈ ts, t.Writable ∧ t.Sought)
    (rest : List Token) :
    classifyFrom false ((ts.map fun t => [orToken, t.token]).flatten ++ rest) =
      let q := classifyFrom false rest
      { q with should := ts ++ q.should } := by
  induction ts with
  | nil => rfl
  | cons t ts ih =>
    obtain ⟨⟨hw, hs⟩, hts⟩ := List.forall_mem_cons.mp h
    rw [List.map_cons, List.flatten_cons, List.append_assoc, List.cons_append,
      classifyFrom_or (by decide), List.singleton_append, classifyFrom_token hw hs, ih hts]
    rfl

theorem classifyFrom_not {ts : List Term} (h : ∀ t ∈ ts, t.Writable ∧ t.kind = .plain) :
    classifyFrom false (ts.map fun t => [t.excludedToken]).flatten = { not := ts } := by
  induction ts with
  | nil => rfl
  | cons t ts ih =>
    obtain ⟨⟨hw, hk⟩, hts⟩ := List.forall_mem_cons.mp h
    rw [List.map_cons, List.flatten_cons, List.singleton_append, classifyFrom_excludedToken hw hk,
      ih hts]

theorem classify_groups {q : Classified} (h : q.Printable) : classify q.groups.flatten = q := by
  rw [classify, Classified.groups, List.flatten_append, List.flatten_append, List.append_assoc,
    classifyFrom_must h.must, classifyFrom_should h.should, classifyFrom_not h.not]
  simp

theorem parse_written {q : Classified} (h : q.Printable) : parse q.written = q := by
  rw [parse, Token.ofQuery, Classified.written, String.toList_ofList,
    Token.scan_intercalate (reads_parts h), classify_groups h]

/-! ## Parsed queries can be printed -/

theorem sought_ofText {t : Token} (hw : t.WellFormed) (hq : ¬ t.OpensQuote) (ho : t.isOr = false)
    (hn : t.negated? = none) : (Term.ofText t.kind t.value.toList).Sought := by
  constructor
  · intro _
    rw [text_ofText]
    exact hw.nonempty
  · intro hk he
    rw [kind_ofText] at hk
    rw [text_ofText] at he
    exact hq ⟨hk, he⟩
  · intro hk he
    rw [kind_ofText] at hk
    rw [text_ofText] at he
    obtain ⟨rest, hr⟩ := List.head?_eq_some_iff.mp he
    simp [Token.negated?, hk, hr] at hn
  · intro hk he
    rw [kind_ofText] at hk
    rw [text_ofText] at he
    simp [Token.isOr, hk, he] at ho

theorem writable_ofText {kind : Kind} {s : List Char}
    (hb : kind = .plain → ∀ c ∈ s, isBlank c = false) (hq : kind = .phrase → s ≠ [] ∧ '"' ∉ s) :
    (Term.ofText kind s).Writable := by
  constructor
  · rw [kind_ofText, text_ofText]
    exact hb
  · rw [kind_ofText, text_ofText]
    exact hq
  · exact starless_ofText kind s

theorem printable_classifyFrom (pending : Bool) {ts : List Token}
    (h : ∀ t ∈ ts, t.WellFormed ∧ ¬ t.OpensQuote) : (classifyFrom pending ts).Printable := by
  induction ts generalizing pending with
  | nil => exact ⟨nofun, nofun, nofun⟩
  | cons t ts ih =>
    obtain ⟨⟨hw, hq⟩, hts⟩ := List.forall_mem_cons.mp h
    by_cases ho : t.isOr
    · rw [classifyFrom_or ho]
      exact ih true hts
    rw [Bool.not_eq_true] at ho
    cases hn : t.negated? with
    | some word =>
      have hk : t.kind = .plain ∧ t.value.toList = '-' :: word := by
        unfold Token.negated? at hn
        split at hn
        · next hk hv => exact ⟨hk, Option.some.inj hn ▸ hv⟩
        · cases hn
      have hterm : (Term.ofText t.kind word).Writable := by
        refine writable_ofText (fun _ c hc => hw.unbroken hk.1 c ?_) (fun hp => ?_)
        · rw [hk.2]
          exact List.mem_cons_of_mem _ hc
        · rw [hk.1] at hp
          cases hp
      obtain ⟨hm, hs, hx⟩ := ih pending hts
      -- an excluded word leaves an `OR` in front of it to the next token
      rw [classifyFrom_negated ho hn]
      exact ⟨hm, hs, List.forall_mem_cons.mpr ⟨⟨hterm, (kind_ofText _ _).trans hk.1⟩, hx⟩⟩
    | none =>
      have hterm : (Term.ofText t.kind t.value.toList).Writable :=
        writable_ofText hw.unbroken fun hp => ⟨hw.nonempty, hw.unquoted hp⟩
      have hsought := sought_ofText hw hq ho hn
      obtain ⟨hm, hs, hx⟩ := ih false hts
      rw [classifyFrom_sought ho hn]
      cases pending with
      | true => exact ⟨hm, List.forall_mem_cons.mpr ⟨⟨hterm, hsought⟩, hs⟩, hx⟩
      | false => exact ⟨List.forall_mem_cons.mpr ⟨⟨hterm, hsought⟩, hm⟩, hs, hx⟩

theorem printable_parse {query : String} (h : ∀ t ∈ Token.ofQuery query, ¬ t.OpensQuote) :
    (parse query).Printable :=
  printable_classifyFrom false fun t ht => ⟨Token.wellFormed_scan query.toList t ht, h t ht⟩

/-- Parsing undoes printing on every printable query, in order and with every kind and wildcard.
What is parsed is printable, and so comes back unchanged, if no plain word began with a quote. -/
theorem parse_undoes_printing :
    (∀ q : Classified, q.Printable → parse q.written = q) ∧
    ∀ query, (∀ t ∈ Token.ofQuery query, ¬ t.OpensQuote) →
      (parse query).Printable ∧ parse (parse query).written = parse query := by
  refine ⟨fun q h => parse_written h, fun query h => ?_⟩
  have hp := printable_parse h
  exact ⟨hp, parse_written hp⟩

/-- Values that look like markers: stars, hyphens, quotes and the word `or` in each of the sets. -/
theorem parse_undoes_printing_markers :
    let q : Classified := ⟨[⟨.plain, "a*", true⟩, ⟨.plain, "OR", true⟩, ⟨.phrase, "-or x", false⟩],
      [⟨.phrase, "", true⟩], [⟨.plain, "-x", false⟩, ⟨.plain, "\"y", false⟩, ⟨.plain, "or", false⟩]⟩
    let typed := "or \"b c\"-or OR -\"x OR* a**"
    (q.Printable ∧ q.written = "a** OR* \"-or x\" OR \"*\" --x -\"y -or" ∧ parse q.written = q) ∧
    (∀ t ∈ Token.ofQuery typed, ¬ t.OpensQuote) ∧
      (parse typed).written = "a** OR \"b c\" OR OR* -or -\"x" ∧
      parse (parse typed).written = parse typed := by
  intro q typed
  have hq : q.Printable := by decide +kernel
  have ht : ∀ t ∈ Token.ofQuery typed, ¬ t.OpensQuote := by decide +kernel
  have hw : (parse typed).written = "a** OR \"b c\" OR OR* -or -\"x" := by decide +kernel
  exact ⟨⟨hq, by decide +kernel, parse_undoes_printing.1 q hq⟩, ht, hw,
    (parse_undoes_printing.2 typed ht).2⟩

end Passage.Query
