import Passage.Proofs.Match.Expression

/-!
# What a source tells of its term

A pattern's source is read without knowing the pattern, and what is read gives back the
value of the term, whether it is open-ended and whether whole words are asked for. Nothing
in a value can be taken for one of the operators, and nothing else of the term or the
options is written.
-/

namespace Passage.Match

/-- What a source tells of the term and the options that it is written for. -/
structure Told where
  value : List Char
  openEnded : Bool
  wholeWord : Bool
  deriving DecidableEq, Repr

def Item.char? : Item → Option Char
  | char c => some c
  | words => none
  | boundary => none

/-- What an expression asks for, wherever its operators stand. -/
def Expression.told (e : Expression) : Told where
  value := e.filterMap Item.char?
  openEnded := .words ∈ e
  wholeWord := .boundary ∈ e

theorem told_expression (p : Pattern) :
    p.expression.told = ⟨p.literal, p.openEnded, p.options.wholeWord⟩ := by
  have hchars : ∀ s : List Char, (s.map Item.char).filterMap Item.char? = s := by
    intro s
    rw [List.filterMap_map]
    exact List.filterMap_some
  obtain ⟨literal, openEnded, ⟨sensitive, wholeWord⟩⟩ := p
  cases openEnded <;> cases wholeWord <;>
    simp [Expression.told, Pattern.expression, List.filterMap_cons, Item.char?, hchars]

theorem told_source (t : Query.Term) (o : Options) :
    (Expression.read (Pattern.ofTerm t o).source).map Expression.told =
      some ⟨t.value.toList, t.kind = .plain && t.wildcard, o.wholeWord⟩ := by
  rw [read_source, Option.map_some, told_expression]
  rfl

/-- Two sources are the same exactly if they tell the same. -/
theorem source_eq_iff (p q : Pattern) : p.source = q.source ↔
    p.literal = q.literal ∧ p.openEnded = q.openEnded ∧
      p.options.wholeWord = q.options.wholeWord := by
  constructor
  · intro h
    have hread := (read_source p).symm.trans (h ▸ read_source q)
    have htold := congrArg Expression.told (Option.some.inj hread)
    rw [told_expression, told_expression] at htold
    cases p
    cases q
    simpa using htold
  · rintro ⟨hl, ho, hw⟩
    rw [Pattern.source, Pattern.source, hl, ho, hw]

/-- The value of a term, whether it is plain with a wildcard, and whether whole words are asked for
can be read back from the source of its pattern, whatever the value contains. Sources differ
wherever one of the three does, and nowhere else. -/
theorem source_tells_term :
    (∀ (t : Query.Term) (o : Options),
      (Expression.read (Pattern.ofTerm t o).source).map Expression.told =
        some ⟨t.value.toList, t.kind = .plain && t.wildcard, o.wholeWord⟩) ∧
    ∀ (t t' : Query.Term) (o o' : Options),
      (Pattern.ofTerm t o).source = (Pattern.ofTerm t' o').source ↔
        t.value = t'.value ∧
        (t.kind = .plain ∧ t.wildcard ↔ t'.kind = .plain ∧ t'.wildcard) ∧
        o.wholeWord = o'.wholeWord := by
  refine ⟨told_source, fun t t' o o' => ?_⟩
  have hvalue : (Pattern.ofTerm t o).literal = (Pattern.ofTerm t' o').literal ↔
      t.value = t'.value := String.toList_inj
  have hopen : (Pattern.ofTerm t o).openEnded = (Pattern.ofTerm t' o').openEnded ↔
      (t.kind = .plain ∧ t.wildcard ↔ t'.kind = .plain ∧ t'.wildcard) := by
    rw [Bool.eq_iff_iff]
    simp [Pattern.ofTerm]
  rw [source_eq_iff, hvalue, hopen]
  rfl

end Passage.Match
