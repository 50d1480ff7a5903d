import Passage.Proofs.Query.Written

/-!
# Queries in segments

A query is white space, a token, white space, and so on. What may be a token at a
place depends on all that follows it: a quote that is closed further on must begin a
phrase. There is one way to cut a query by these rules, and its tokens are what the
scanner yields, so that nothing but white space and the quotes of phrases is lost.
-/

namespace Passage.Query

open Text

/-- The part of a query that a token is read from. -/
inductive Stretch
  | quoted (inner : List Char)
  | run (word : List Char)
  deriving DecidableEq, Repr

/-- The word may be a token with `rest` behind it: it ends at white space or with the query, and
where it begins with a quote, another one follows at once or none does. -/
structure Standing (word rest : List Char) : Prop where
  nonempty : word ≠ []
  unbroken : ∀ c ∈ word, isBlank c = false
  ended : ∀ c ∈ rest.head?, isBlank c
  unpaired : word.head? = some '"' → (word ++ rest)[1]? = some '"' ∨ '"' ∉ (word ++ rest).tail

instance (word rest : List Char) : Decidable (Standing word rest) :=
  decidable_of_iff (word ≠ [] ∧ (∀ c ∈ word, isBlank c = false) ∧ rest.head?.all isBlank ∧
      (word.head? = some '"' → (word ++ rest)[1]? = some '"' ∨ '"' ∉ (word ++ rest).tail))
    ⟨fun ⟨a, b, c, d⟩ => ⟨a, b, (Option.all_eq_true _ _).mp c, d⟩,
      fun ⟨a, b, c, d⟩ => ⟨a, b, (Option.all_eq_true _ _).mpr c, d⟩⟩

namespace Stretch

def text : Stretch → List Char
  | quoted inner => '"' :: (inner ++ ['"'])
  | run word => word

def token : Stretch → Token
  | quoted inner => ⟨.phrase, String.ofList inner⟩
  | run word => ⟨.plain, String.ofList word⟩

def Before (rest : List Char) : Stretch → Prop
  | quoted inner => inner ≠ [] ∧ '"' ∉ inner
  | run word => Standing word rest

instance (rest : List Char) : (x : Stretch) → Decidable (x.Before rest)
  | quoted inner => inferInstanceAs (Decidable (inner ≠ [] ∧ '"' ∉ inner))
  | run word => inferInstanceAs (Decidable (Standing word rest))

end Stretch

/-- A gap, and then stretches with a gap behind each of them. -/
inductive Segmentation
  | last (gap : List Char)
  | part (gap : List Char) (x : Stretch) (d : Segmentation)
  deriving DecidableEq, Repr

namespace Segmentation

def text : Segmentation → List Char
  | last gap => gap
  | part gap x d => gap ++ (x.text ++ d.text)

def tokens : Segmentation → List Token
  | last _ => []
  | part _ x d => x.token :: d.tokens

/-- The gaps are white space, and every stretch may be a token where it stands. -/
def Proper : Segmentation → Prop
  | last gap => ∀ c ∈ gap, isBlank c
  | part gap x d => (∀ c ∈ gap, isBlank c) ∧ x.Before d.text ∧ d.Proper

instance decidableProper : (d : Segmentation) → Decidable d.Proper
  | last gap => inferInstanceAs (Decidable (∀ c ∈ gap, isBlank c))
  | part gap x d =>
    have := decidableProper d
    inferInstanceAs (Decidable ((∀ c ∈ gap, isBlank c) ∧ x.Before d.text ∧ d.Proper))

structure Of (d : Segmentation) (query : List Char) : Prop where
  text_eq : d.text = query
  proper : d.Proper

/-- A blank put in front belongs to the first gap. -/
def cons (c : Char) : Segmentation → Segmentation
  | last gap => last (c :: gap)
  | part gap x d => part (c :: gap) x d

end Segmentation

/-! ## Where a phrase begins -/

namespace Token

theorem phrase?_eq_some_iff {s inner rest : List Char} :
    phrase? s = some (inner, rest) ↔
      s = '"' :: (inner ++ '"' :: rest) ∧ inner ≠ [] ∧ '"' ∉ inner := by
  constructor
  · intro h
    refine ⟨?_, phrase?_eq_some h⟩
    unfold phrase? at h
    split at h
    · next s =>
      split at h
      · next c cs d after htake hdrop =>
        obtain ⟨rfl, rfl⟩ := Prod.mk.inj (Option.some.inj h)
        have hd : d = '"' := by
          have hhead := List.head?_dropWhile_not (fun c => decide (c ≠ '"')) s
          rw [hdrop] at hhead
          simpa using hhead
        have hs := List.takeWhile_append_dropWhile (p := fun c => decide (c ≠ '"')) (l := s)
        rw [htake, hdrop, hd] at hs
        rw [hs]
      · cases h
    · cases h
  · rintro ⟨rfl, hne, hq⟩
    exact phrase?_quoted hne hq rest

/-- No phrase begins at a quote that another one follows at once, or that is never closed. -/
theorem phrase?_eq_none_iff (s : List Char) :
    phrase? s = none ↔ (s.head? = some '"' → s[1]? = some '"' ∨ '"' ∉ s.tail) := by
  constructor
  · intro h hh
    obtain ⟨t, rfl⟩ := List.head?_eq_some_iff.mp hh
    rw [List.getElem?_cons_succ, List.tail_cons]
    refine Decidable.byContradiction fun hno => ?_
    obtain ⟨hfirst, hmem⟩ := not_or.mp hno
    obtain ⟨inner, rest, rfl, hq⟩ := List.eq_append_cons_of_mem (not_not.mp hmem)
    have hne : inner ≠ [] := by
      rintro rfl
      exact hfirst rfl
    rw [phrase?_quoted hne hq] at h
    cases h
  · intro h
    rw [Option.eq_none_iff_forall_ne_some]
    rintro ⟨inner, rest⟩ hp
    obtain ⟨rfl, hne, hq⟩ := phrase?_eq_some_iff.mp hp
    obtain ⟨c, cs, rfl⟩ := List.exists_cons_of_ne_nil hne
    rcases h rfl with hc | hno
    · obtain rfl : c = '"' := by simpa using hc
      exact hq List.mem_cons_self
    · simp at hno

end Token

/-! ## The segmentations of a query, from its first character -/

namespace Stretch

theorem before_of_phrase {s inner rest : List Char}
    (h : Token.phrase? s = some (inner, rest)) (x : Stretch) (after : List Char) :
    (x.Before after ∧ x.text ++ after = s) ↔ x = quoted inner ∧ after = rest := by
  obtain ⟨hs, hne, hq⟩ := Token.phrase?_eq_some_iff.mp h
  constructor
  · rintro ⟨hx, hxs⟩
    cases x with
    | quoted inner' =>
      have h' : Token.phrase? s = some (inner', after) := by
        rw [← hxs, text, List.cons_append, List.append_assoc, List.singleton_append]
        exact Token.phrase?_quoted hx.1 hx.2 after
      rw [h, Option.some.injEq, Prod.mk.injEq] at h'
      exact ⟨by rw [h'.1], h'.2.symm⟩
    | run word =>
      have hnone : Token.phrase? s = none := by
        rw [Token.phrase?_eq_none_iff, ← hxs]
        intro hh
        refine hx.unpaired ?_
        obtain ⟨c, cs, rfl⟩ := List.exists_cons_of_ne_nil hx.nonempty
        exact hh
      rw [h] at hnone
      cases hnone
  · rintro ⟨rfl, rfl⟩
    refine ⟨⟨hne, hq⟩, ?_⟩
    rw [hs, text, List.cons_append, List.append_assoc, List.singleton_append]

/-- Where no phrase begins, the token is the word up to white space. -/
theorem before_of_no_phrase {c : Char} {rest : List Char} (hc : ¬ isBlank c)
    (h : Token.phrase? (c :: rest) = none) (x : Stretch) (after : List Char) :
    (x.Before after ∧ x.text ++ after = c :: rest) ↔
      x = run (c :: rest.takeWhile (!isBlank ·)) ∧ after = rest.dropWhile (!isBlank ·) := by
  constructor
  · rintro ⟨hx, hxs⟩
    cases x with
    | quoted inner =>
      rw [text, List.cons_append, List.append_assoc, List.singleton_append] at hxs
      rw [← hxs, Token.phrase?_quoted hx.1 hx.2] at h
      cases h
    | run word =>
      obtain ⟨d, cs, rfl⟩ := List.exists_cons_of_ne_nil hx.nonempty
      obtain ⟨rfl, hrest⟩ := List.cons.inj (show d :: (cs ++ after) = c :: rest from hxs)
      have hcs : ∀ a ∈ cs, (!isBlank a) = true := by
        intro a ha
        rw [hx.unbroken a (List.mem_cons_of_mem d ha)]
        rfl
      rw [← hrest, List.takeWhile_append_of_pos hcs, List.dropWhile_append_of_pos hcs]
      cases after with
      | nil => simp
      | cons a after => simp [hx.ended a rfl]
  · rintro ⟨rfl, rfl⟩
    have hs : (c :: rest.takeWhile (!isBlank ·)) ++ rest.dropWhile (!isBlank ·) = c :: rest := by
      rw [List.cons_append, List.takeWhile_append_dropWhile]
    refine ⟨⟨List.cons_ne_nil _ _, ?_, ?_, ?_⟩, hs⟩
    · refine List.forall_mem_cons.mpr ⟨Bool.not_eq_true _ ▸ hc, fun d hd => ?_⟩
      simpa using List.mem_takeWhile_imp hd
    · intro d hd
      have hhead := List.head?_dropWhile_not (!isBlank ·) rest
      rw [hd] at hhead
      simpa using hhead
    · rw [hs]
      exact (Token.phrase?_eq_none_iff _).mp h

end Stretch

namespace Segmentation

theorem not_blank_of_before {x : Stretch} {after : List Char} (h : x.Before after) :
    ∃ c s, x.text = c :: s ∧ isBlank c = false := by
  cases x with
  | quoted inner => exact ⟨_, _, rfl, by decide⟩
  | run word =>
    obtain ⟨c, cs, rfl⟩ := List.exists_cons_of_ne_nil h.nonempty
    exact ⟨c, cs, rfl, h.unbroken c List.mem_cons_self⟩

theorem of_nil_iff (d : Segmentation) : d.Of [] ↔ d = last [] := by
  constructor
  · rintro ⟨ht, hp⟩
    cases d with
    | last gap => rw [show gap = [] from ht]
    | part gap x d =>
      obtain ⟨c, s, hx, _⟩ := not_blank_of_before hp.2.1
      simp [text, hx] at ht
  · rintro rfl
    exact ⟨rfl, nofun⟩

theorem of_blank_iff {c : Char} (hc : isBlank c) (s : List Char) (d : Segmentation) :
    d.Of (c :: s) ↔ ∃ e : Segmentation, e.Of s ∧ d = e.cons c := by
  constructor
  · rintro ⟨ht, hp⟩
    cases d with
    | last gap =>
      obtain rfl : gap = c :: s := ht
      exact ⟨last s, ⟨rfl, (List.forall_mem_cons.mp hp).2⟩, rfl⟩
    | part gap x d =>
      cases gap with
      | nil =>
        obtain ⟨b, t, hx, hb⟩ := not_blank_of_before hp.2.1
        have hbc : b = c := by
          rw [text, hx] at ht
          exact (List.cons.inj ht).1
        rw [hbc, hc] at hb
        cases hb
      | cons b gap =>
        obtain ⟨rfl, ht'⟩ := List.cons.inj ht
        exact ⟨part gap x d, ⟨ht', (List.forall_mem_cons.mp hp.1).2, hp.2⟩, rfl⟩
  · rintro ⟨e, ⟨ht, hp⟩, rfl⟩
    cases e with
    | last gap => exact ⟨congrArg (c :: ·) ht, List.forall_mem_cons.mpr ⟨hc, hp⟩⟩
    | part gap x d =>
      exact ⟨congrArg (c :: ·) ht, List.forall_mem_cons.mpr ⟨hc, hp.1⟩, hp.2⟩

/-- Where the query begins with the stretch `x` and with no other, so does a segmentation. -/
theorem of_stretch_iff {c : Char} {s rest : List Char} {x : Stretch} (hc : ¬ isBlank c)
    (h : ∀ (y : Stretch) (after : List Char),
      (y.Before after ∧ y.text ++ after = c :: s) ↔ y = x ∧ after = rest) (d : Segmentation) :
    d.Of (c :: s) ↔ ∃ e : Segmentation, e.Of rest ∧ d = part [] x e := by
  constructor
  · rintro ⟨ht, hp⟩
    cases d with
    | last gap =>
      obtain rfl : gap = c :: s := ht
      exact absurd (hp c List.mem_cons_self) hc
    | part gap y d =>
      cases gap with
      | nil =>
        obtain ⟨rfl, hd⟩ := (h y d.text).mp ⟨hp.2.1, ht⟩
        exact ⟨d, ⟨hd, hp.2.2⟩, rfl⟩
      | cons b gap =>
        obtain ⟨rfl, ht⟩ := List.cons.inj ht
        exact absurd (hp.1 b List.mem_cons_self) hc
  · rintro ⟨e, ⟨rfl, hp⟩, rfl⟩
    obtain ⟨hx, hs⟩ := (h x e.text).mpr ⟨rfl, rfl⟩
    exact ⟨hs, nofun, hx, hp⟩

theorem tokens_cons (c : Char) (d : Segmentation) : (d.cons c).tokens = d.tokens := by
  cases d <;> rfl

/-- The scanner's tokens are those of the one segmentation. -/
theorem exists_unique_of_scan (s : List Char) :
    ∃ d : Segmentation, d.Of s ∧ Token.scan s = d.tokens ∧ ∀ e : Segmentation, e.Of s → e = d := by
  induction s using Token.scan.induct with
  | case1 => exact ⟨last [], (of_nil_iff _).mpr rfl, Token.scan_nil, fun e => (of_nil_iff e).mp⟩
  | case2 c rest hc ih =>
    obtain ⟨d, hd, htokens, hu⟩ := ih
    refine ⟨d.cons c, (of_blank_iff hc rest _).mpr ⟨d, hd, rfl⟩, ?_, fun e' he => ?_⟩
    · rw [Token.scan_blank hc, htokens, tokens_cons]
    · obtain ⟨e, hs, rfl⟩ := (of_blank_iff hc rest e').mp he
      rw [hu e hs]
  | case3 c rest hc inner after h ih =>
    have hof := of_stretch_iff hc (Stretch.before_of_phrase h)
    obtain ⟨d, hd, htokens, hu⟩ := ih
    refine ⟨part [] (.quoted inner) d, (hof _).mpr ⟨d, hd, rfl⟩, ?_, fun e' he => ?_⟩
    · rw [Token.scan_of_phrase hc h, htokens]
      rfl
    · obtain ⟨e, hs, rfl⟩ := (hof e').mp he
      rw [hu e hs]
  | case4 c rest hc h ih =>
    have hof := of_stretch_iff hc (Stretch.before_of_no_phrase hc h)
    obtain ⟨d, hd, htokens, hu⟩ := ih
    refine ⟨part [] (.run (c :: rest.takeWhile (!isBlank ·))) d, (hof _).mpr ⟨d, hd, rfl⟩, ?_,
      fun e' he => ?_⟩
    · rw [Token.scan_of_no_phrase hc h, htokens]
      rfl
    · obtain ⟨e, hs, rfl⟩ := (hof e').mp he
      rw [hu e hs]

end Segmentation

/-- A query has one segmentation, and its tokens in order are the query's tokens. -/
theorem ofQuery_eq_tokens_of_segmentation (query : String) :
    (∃! d : Segmentation, d.Of query.toList) ∧
      ∀ d : Segmentation, d.Of query.toList → Token.ofQuery query = d.tokens := by
  obtain ⟨d, hd, htokens, hu⟩ := Segmentation.exists_unique_of_scan query.toList
  refine ⟨⟨d, hd, hu⟩, fun e he => ?_⟩
  rw [Token.ofQuery, htokens, hu e he]

/-- A phrase that touches a word, an empty quotation, a quote inside a word and one left open. -/
theorem ofQuery_eq_tokens_of_segmentation_quotes :
    let query := " \"a b\"c \"\"x\" -\"y \"z"
    let d : Segmentation :=
      .part [' '] (.quoted ['a', ' ', 'b']) (.part [] (.run ['c']) (.part [' ']
        (.run ['"', '"', 'x', '"']) (.part [' '] (.run ['-', '"', 'y']) (.part [' ']
          (.run ['"', 'z']) (.last [])))))
    d.Of query.toList ∧ Token.ofQuery query = [⟨.phrase, "a b"⟩, ⟨.plain, "c"⟩,
      ⟨.plain, "\"\"x\""⟩, ⟨.plain, "-\"y"⟩, ⟨.plain, "\"z"⟩] := by
  intro query d
  have hd : d.Of query.toList := ⟨by decide +kernel, by decide +kernel⟩
  exact ⟨hd, (ofQuery_eq_tokens_of_segmentation query).2 d hd⟩

end Passage.Query
