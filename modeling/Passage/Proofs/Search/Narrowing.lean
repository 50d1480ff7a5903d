import Passage.Proofs.Search.Agreement

/-!
# Tightened options

Where case counts or whole words are asked for, a term occurs at fewer places and at
none besides. Required terms are then met by fewer paragraphs and excluded ones shut
out fewer, so without excluded terms a search finds a part of what it found before.
-/

namespace Passage

open Text

namespace Match

/-- Case counts, or whole words are asked for, wherever they were before. -/
structure Options.Tightens (tight o : Options) : Prop where
  caseSensitive : o.caseSensitive → tight.caseSensitive
  wholeWord : o.wholeWord → tight.wholeWord

variable {tight o : Options}

theorem Options.Tightens.agree (h : tight.Tightens o) {a b : Char} (hab : Agree tight a b) :
    Agree o a b := by
  rcases hab with rfl | ⟨hs, hab⟩
  · exact Or.inl rfl
  · exact Or.inr ⟨Bool.eq_false_iff.mpr fun ho => Bool.eq_false_iff.mp hs (h.caseSensitive ho), hab⟩

/-- Each occurrence is one under the looser options, at the same place. -/
theorem Options.Tightens.occursAt (h : tight.Tightens o) {t : Query.Term} {text : List Char}
    {i j : Nat} (ht : OccursAt t tight text i j) : OccursAt t o text i j := by
  refine ⟨ht.inside, fun k a ha => ?_, ht.stop, fun ho => ht.edges (h.wholeWord ho)⟩
  obtain ⟨b, hb, hab⟩ := ht.agrees k a ha
  exact ⟨b, hb, h.agree hab⟩

theorem Options.Tightens.occurs (h : tight.Tightens o) {t : Query.Term} {text : List Char}
    (ht : Occurs t tight text) : Occurs t o text := by
  obtain ⟨i, j, hij⟩ := ht
  exact ⟨i, j, h.occursAt hij⟩

/-- Excluded terms apart, what satisfies a query under the tighter options satisfies it. -/
theorem Options.Tightens.satisfies (h : tight.Tightens o) {q : Query.Classified}
    {text : List Char} (hn : ∀ t ∈ q.not, ¬ Occurs t o text) (hs : Satisfies tight q text) :
    Satisfies o q text :=
  ⟨hn, fun t ht => h.occurs (hs.required t ht), hs.asked⟩

theorem Options.Tightens.any_occursIn (h : tight.Tightens o) {ts : List Query.Term}
    {text : List Char} (hts : ∃ t ∈ ts, (Pattern.ofTerm t tight).occursIn text) :
    ∃ t ∈ ts, (Pattern.ofTerm t o).occursIn text := by
  obtain ⟨t, ht, hocc⟩ := hts
  exact ⟨t, ht, (occursIn_iff t o text).mpr (h.occurs ((occursIn_iff t tight text).mp hocc))⟩

end Match

namespace Search

open Match (Options Compiled Compiles Pattern)

theorem indices_subset {tight o : Options} (h : tight.Tightens o) {q : Query.Classified}
    (hn : q.not = []) (ps : List String) :
    (collectFrom (Compiled.ofQuery tight q) 0 ps).map Finding.index ⊆
      (collectFrom (Compiled.ofQuery o q) 0 ps).map Finding.index := by
  intro i hi
  rw [mem_indices_iff] at hi ⊢
  obtain ⟨p, hp, hs⟩ := hi
  refine ⟨p, hp, h.satisfies ?_ hs⟩
  rw [hn]
  nofun

/-- Under tighter options a query without excluded terms finds places among those found before,
and where it is refused it was before, for the same reason. Of any query, the excluded terms that
shut a paragraph out under the tighter options did so before. -/
theorem search_narrows {tight o : Options} (h : tight.Tightens o) (q : String) :
    (∀ ps, (understood q).not = [] →
      (∀ t ∈ (understood q).terms, Compiles tight t ∧ Compiles o t) →
      (∃ fewer found, search tight ps q = .ok fewer ∧ search o ps q = .ok found ∧
        fewer.map Finding.index ⊆ found.map Finding.index) ∨
      (ps = [] ∨ trim q.toList = []) ∧
        ∃ e, search tight ps q = .error e ∧ search o ps q = .error e) ∧
    ∀ p : String,
      (∃ t ∈ (understood q).not, (Pattern.ofTerm t tight).occursIn p.toList) →
        ∃ t ∈ (understood q).not, (Pattern.ofTerm t o).occursIn p.toList := by
  refine ⟨fun ps hn hc => ?_, fun p => h.any_occursIn⟩
  by_cases hp : ps = []
  · exact Or.inr ⟨Or.inl hp, _, (guarded_search tight ps q).emptyDocument.mpr hp,
      (guarded_search o ps q).emptyDocument.mpr hp⟩
  by_cases hq : trim q.toList = []
  · exact Or.inr ⟨Or.inr hq, _, (guarded_search tight ps q).emptyQuery.mpr ⟨hp, hq⟩,
      (guarded_search o ps q).emptyQuery.mpr ⟨hp, hq⟩⟩
  · exact Or.inl ⟨_, _, search_eq_ok hp hq fun t ht => (hc t ht).1,
      search_eq_ok hp hq fun t ht => (hc t ht).2, indices_subset h hn ps⟩

/-- A word with a wildcard: case and word boundaries leave one of three paragraphs. The excluded
word shuts a paragraph out with both and without. -/
theorem search_narrows_wildcard :
    let ps := ["The Foxes jump", "the foxes jump", "a Firefox jumps"]
    let tight : Options := ⟨true, true⟩
    tight.Tightens {} ∧
      (understood "Fox*").not = [] ∧
      (∀ t ∈ (understood "Fox*").terms, Compiles tight t ∧ Compiles {} t) ∧
      search tight ps "Fox*" = .ok [⟨0, "The <mark>Foxes</mark> jump", "The Foxes jump"⟩] ∧
      (∃ found, search {} ps "Fox*" = .ok found ∧ [0] ⊆ found.map Finding.index ∧
        found.length = 3) ∧
      ∃ t ∈ (understood "a -Fox*").not, (Pattern.ofTerm t {}).occursIn "The Foxes jump".toList := by
  intro ps tight
  have ht : tight.Tightens {} := ⟨nofun, nofun⟩
  have hu : understood "Fox*" = ⟨[⟨.plain, "Fox", true⟩], [], []⟩ := by decide +kernel
  have hn : (understood "Fox*").not = [] := by rw [hu]
  have hc : ∀ t ∈ (understood "Fox*").terms, Compiles tight t ∧ Compiles {} t := by
    rw [hu]
    intro t ht
    obtain rfl := List.mem_singleton.mp ht
    exact ⟨⟨_, rfl⟩, _, rfl⟩
  have hexcluded : understood "a -Fox*" =
      ⟨[⟨.plain, "a", false⟩], [], [⟨.plain, "Fox", true⟩]⟩ := by decide +kernel
  have hfewer : search tight ps "Fox*" =
      .ok [⟨0, "The <mark>Foxes</mark> jump", "The Foxes jump"⟩] := by decide +kernel
  refine ⟨ht, hn, hc, hfewer, ?_, (search_narrows ht "a -Fox*").2 _ ?_⟩
  · rcases (search_narrows ht "Fox*").1 ps hn hc with ⟨fewer, found, hf, hfound, hsub⟩ | ⟨he, _⟩
    · rw [hfewer] at hf
      obtain rfl := Except.ok.inj hf
      refine ⟨found, hfound, hsub, ?_⟩
      have hall : (search {} ps "Fox*").map List.length = .ok 3 := by decide +kernel
      rw [hfound] at hall
      exact Except.ok.inj hall
    · exact absurd he (by decide +kernel)
  · rw [hexcluded]
    exact ⟨_, List.mem_singleton_self _, by decide +kernel⟩

end Search

end Passage
