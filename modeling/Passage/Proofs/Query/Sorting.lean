import Passage.Proofs.Query.RoundTrip
import Passage.Proofs.Text.AsciiCase

/-!
# Which token goes where

Every token but the operator gives one term. A negated token is excluded, wherever it
stands; another one is optional exactly if an operator stands in front of it with
nothing but operators and negated tokens in between. This is said by positions, and the
sets of a classified query hold the terms of those positions in ascending order.
-/

namespace Passage.Query

namespace Token

/-- The plain word `or`, in capitals or small letters. -/
def IsOperator (t : Token) : Prop := t.kind = .plain ∧ t.value ∈ ["or", "oR", "Or", "OR"]

instance (t : Token) : Decidable t.IsOperator := inferInstanceAs (Decidable (_ ∧ _))

def IsNegated (t : Token) : Prop :=
  t.kind = .plain ∧ ¬ t.IsOperator ∧ t.value.toList.head? = some '-'

instance (t : Token) : Decidable t.IsNegated := inferInstanceAs (Decidable (_ ∧ _))

/-- The text without the `-` of a negated token. -/
def body (t : Token) : List Char := if t.IsNegated then t.value.toList.tail else t.value.toList

/-- The term that comes of a token: of the same kind, and with a text that is the token's. -/
structure Gives (t : Token) (term : Term) : Prop where
  kind : term.kind = t.kind
  text : t.value.toList = (if t.IsNegated then ['-'] else []) ++
    (term.value.toList ++ if term.wildcard then ['*'] else [])
  wildcard : term.wildcard ↔ t.body.getLast? = some '*'

end Token

/-- The terms come of the tokens at the chosen positions, one of each and in their order. -/
def Gathers (ts : List Token) (chosen : Nat → Prop) (terms : List Term) : Prop :=
  ∃ places : List Nat, places.Pairwise (· < ·) ∧
    (∀ i, i ∈ places ↔ i < ts.length ∧ chosen i) ∧
    List.Forall₂ (fun i term => ∃ t ∈ ts[i]?, t.Gives term) places terms

def Negated (ts : List Token) (i : Nat) : Prop := ∃ t ∈ ts[i]?, t.IsNegated

def Operator (ts : List Token) (i : Nat) : Prop := ∃ t ∈ ts[i]?, t.IsOperator

/-- An operator stands in front of the position, with operators and negated tokens in between. -/
def Awaited (ts : List Token) (i : Nat) : Prop :=
  ∃ j < i, Operator ts j ∧ ∀ k, j < k → k < i → Operator ts k ∨ Negated ts k

/-! ## Operators and negated tokens -/

namespace Token

theorem lowerAscii_eq_iff (s : List Char) :
    lowerAscii s = ['o', 'r'] ↔ s ∈ [['o', 'r'], ['o', 'R'], ['O', 'r'], ['O', 'R']] := by
  have ho := Text.toLower_eq_iff 'o' 'O' rfl (by decide)
  have hr := Text.toLower_eq_iff 'r' 'R' rfl (by decide)
  constructor
  · intro h
    obtain ⟨a, s', rfl, ha, h⟩ := List.map_eq_cons_iff.mp h
    obtain ⟨b, s'', rfl, hb, h⟩ := List.map_eq_cons_iff.mp h
    obtain rfl := List.map_eq_nil_iff.mp h
    rcases (ho a).mp ha with rfl | rfl <;> rcases (hr b).mp hb with rfl | rfl <;> decide
  · revert s
    decide

theorem isOr_iff (t : Token) : t.isOr ↔ t.IsOperator := by
  rw [isOr, Bool.and_eq_true, decide_eq_true_eq, decide_eq_true_eq, lowerAscii_eq_iff]
  simp [IsOperator, ← String.toList_inj]

theorem negated?_of_isNegated {t : Token} (h : t.IsNegated) : t.negated? = some t.body := by
  obtain ⟨rest, hr⟩ := List.head?_eq_some_iff.mp h.2.2
  rw [body, if_pos h, hr]
  simp [negated?, h.1, hr]

theorem negated?_eq_none {t : Token} (ho : ¬ t.IsOperator) (hn : ¬ t.IsNegated) :
    t.negated? = none := by
  unfold negated?
  split
  · next rest hk hv => exact absurd ⟨hk, ho, by rw [hv]; rfl⟩ hn
  · rfl

theorem sign_append_body (t : Token) :
    (if t.IsNegated then ['-'] else []) ++ t.body = t.value.toList := by
  unfold body
  split
  · next h =>
    obtain ⟨rest, hr⟩ := List.head?_eq_some_iff.mp h.2.2
    rw [hr]
    rfl
  · rfl

theorem gives_ofText (t : Token) : t.Gives (Term.ofText t.kind t.body) := by
  refine ⟨kind_ofText _ _, ?_, ?_⟩
  · have ht := text_ofText t.kind t.body
    rw [Term.text] at ht
    rw [ht, sign_append_body]
  · unfold Term.ofText
    split <;> simp_all

end Token

/-! ## Gathering -/

theorem Gathers.congr {ts : List Token} {chosen other : Nat → Prop} {terms : List Term}
    (hc : ∀ i, chosen i ↔ other i) (h : Gathers ts chosen terms) : Gathers ts other terms := by
  obtain rfl : chosen = other := funext fun i => propext (hc i)
  exact h

variable {t : Token} {ts : List Token} {chosen : Nat → Prop} {terms : List Term}

/-- A position that is not chosen gives nothing. -/
theorem Gathers.skip (h0 : ¬ chosen 0) (h : Gathers ts (fun i => chosen (i + 1)) terms) :
    Gathers (t :: ts) chosen terms := by
  obtain ⟨places, hasc, hmem, hgive⟩ := h
  refine ⟨places.map (· + 1), ?_, ?_, ?_⟩
  · rw [List.pairwise_map]
    exact hasc.imp Nat.succ_lt_succ
  · intro i
    cases i with
    | zero => simpa using h0
    | succ i => simp [hmem i]
  · rw [List.forall₂_map_left_iff]
    exact hgive

theorem Gathers.take {term : Term} (h0 : chosen 0) (ht : t.Gives term)
    (h : Gathers ts (fun i => chosen (i + 1)) terms) :
    Gathers (t :: ts) chosen (term :: terms) := by
  obtain ⟨places, hasc, hmem, hgive⟩ := h
  refine ⟨0 :: places.map (· + 1), ?_, ?_, ?_⟩
  · refine List.pairwise_cons.mpr ⟨by simp, ?_⟩
    rw [List.pairwise_map]
    exact hasc.imp Nat.succ_lt_succ
  · intro i
    cases i with
    | zero => simpa using h0
    | succ i => simp [hmem i]
  · refine .cons ⟨t, rfl, ht⟩ ?_
    rw [List.forall₂_map_left_iff]
    exact hgive

/-! ## Positions -/

theorem negated_zero : Negated (t :: ts) 0 ↔ t.IsNegated := by simp [Negated]

theorem operator_zero : Operator (t :: ts) 0 ↔ t.IsOperator := by simp [Operator]

/-- An operator before the second token on is one of the tokens behind the first, or the first. -/
theorem awaited_succ (i : Nat) :
    Awaited (t :: ts) (i + 1) ↔
      Awaited ts i ∨ t.IsOperator ∧ ∀ k < i, Operator ts k ∨ Negated ts k := by
  constructor
  · rintro ⟨j, hj, ho, hbetween⟩
    cases j with
    | zero =>
      refine Or.inr ⟨operator_zero.mp ho, fun k hk => ?_⟩
      exact hbetween (k + 1) (Nat.succ_pos k) (Nat.succ_lt_succ hk)
    | succ j =>
      refine Or.inl ⟨j, Nat.lt_of_succ_lt_succ hj, ho, fun k hjk hk => ?_⟩
      exact hbetween (k + 1) (Nat.succ_lt_succ hjk) (Nat.succ_lt_succ hk)
  · rintro (⟨j, hj, ho, hbetween⟩ | ⟨ho, hbetween⟩)
    · refine ⟨j + 1, Nat.succ_lt_succ hj, ho, fun k hjk hk => ?_⟩
      obtain ⟨k, rfl⟩ := Nat.exists_eq_add_one_of_ne_zero (by omega : k ≠ 0)
      exact hbetween k (Nat.lt_of_succ_lt_succ hjk) (Nat.lt_of_succ_lt_succ hk)
    · refine ⟨0, Nat.succ_pos i, operator_zero.mpr ho, fun k h0k hk => ?_⟩
      obtain ⟨k, rfl⟩ := Nat.exists_eq_add_one_of_ne_zero (Nat.ne_of_gt h0k)
      exact hbetween k (Nat.lt_of_succ_lt_succ hk)

/-- As `Awaited`, where an operator that waits for its term may stand in front of all tokens. -/
def AwaitedFrom (pending : Prop) (ts : List Token) (i : Nat) : Prop :=
  Awaited ts i ∨ pending ∧ ∀ k < i, Operator ts k ∨ Negated ts k

theorem awaitedFrom_zero (pending : Prop) : AwaitedFrom pending ts 0 ↔ pending := by
  simp [AwaitedFrom, Awaited]

/-- Behind a token, an operator waits if the token is one, or leaves one waiting. -/
theorem awaitedFrom_succ (pending : Prop) (i : Nat) :
    AwaitedFrom pending (t :: ts) (i + 1) ↔
      AwaitedFrom (t.IsOperator ∨ pending ∧ t.IsNegated) ts i := by
  have hpassed : (∀ k < i + 1, Operator (t :: ts) k ∨ Negated (t :: ts) k) ↔
      (t.IsOperator ∨ t.IsNegated) ∧ ∀ k < i, Operator ts k ∨ Negated ts k := by
    rw [Nat.forall_lt_succ_left, operator_zero, negated_zero]
    rfl
  rw [AwaitedFrom, AwaitedFrom, awaited_succ, hpassed]
  tauto

/-! ## Sorting tokens -/

/-- A position that is neither an operator nor negated. -/
def Sought (ts : List Token) (i : Nat) : Prop := ¬ Operator ts i ∧ ¬ Negated ts i

/-- The sets of a query hold the terms of the positions that belong to them. -/
structure Sorts (pending : Prop) (ts : List Token) (q : Classified) : Prop where
  excluded : Gathers ts (Negated ts) q.not
  optional : Gathers ts (fun i => Sought ts i ∧ AwaitedFrom pending ts i) q.should
  required : Gathers ts (fun i => Sought ts i ∧ ¬ AwaitedFrom pending ts i) q.must

variable {pending after : Prop} {q : Classified}

/-- The tokens behind the first one, told by their positions in the whole list. -/
theorem Sorts.behind (t : Token) (pending : Prop) (h : Sorts after ts q)
    (ha : after ↔ t.IsOperator ∨ pending ∧ t.IsNegated) :
    Gathers ts (fun i => Negated (t :: ts) (i + 1)) q.not ∧
      Gathers ts (fun i => Sought (t :: ts) (i + 1) ∧ AwaitedFrom pending (t :: ts) (i + 1))
        q.should ∧
      Gathers ts (fun i => Sought (t :: ts) (i + 1) ∧ ¬ AwaitedFrom pending (t :: ts) (i + 1))
        q.must := by
  obtain rfl : after = _ := propext ha
  refine ⟨h.excluded, h.optional.congr fun i => ?_, h.required.congr fun i => ?_⟩
  · rw [awaitedFrom_succ]
    rfl
  · rw [awaitedFrom_succ]
    rfl

theorem sought_zero : Sought (t :: ts) 0 ↔ ¬ t.IsOperator ∧ ¬ t.IsNegated := by
  rw [Sought, operator_zero, negated_zero]

theorem sorts_nil : Sorts pending [] {} := by
  have hnone : ∀ chosen : Nat → Prop, Gathers [] chosen [] := fun _ => ⟨[], .nil, by simp, .nil⟩
  exact ⟨hnone _, hnone _, hnone _⟩

theorem Sorts.operator (ht : t.IsOperator) (h : Sorts True ts q) : Sorts pending (t :: ts) q := by
  obtain ⟨hx, ho, hr⟩ := h.behind t pending (by simp [ht])
  have hs : ¬ Sought (t :: ts) 0 := fun hs => (sought_zero.mp hs).1 ht
  exact ⟨hx.skip fun hn => (negated_zero.mp hn).2.1 ht, ho.skip fun hc => hs hc.1,
    hr.skip fun hc => hs hc.1⟩

theorem Sorts.negated (ht : t.IsNegated) (h : Sorts pending ts q) :
    Sorts pending (t :: ts) { q with not := Term.ofText t.kind t.body :: q.not } := by
  obtain ⟨hx, ho, hr⟩ := h.behind t pending (by simp [ht, ht.2.1])
  have hs : ¬ Sought (t :: ts) 0 := fun hs => (sought_zero.mp hs).2 ht
  exact ⟨hx.take (negated_zero.mpr ht) t.gives_ofText, ho.skip fun hc => hs hc.1,
    hr.skip fun hc => hs hc.1⟩

theorem Sorts.optional_cons (ho : ¬ t.IsOperator) (hn : ¬ t.IsNegated) (h : Sorts False ts q) :
    Sorts True (t :: ts) { q with should := Term.ofText t.kind t.body :: q.should } := by
  obtain ⟨hx, hopt, hreq⟩ := h.behind t True (by simp [ho, hn])
  refine ⟨hx.skip fun h0 => hn (negated_zero.mp h0), hopt.take ?_ t.gives_ofText, hreq.skip ?_⟩
  · exact ⟨sought_zero.mpr ⟨ho, hn⟩, (awaitedFrom_zero True).mpr trivial⟩
  · exact fun hc => hc.2 ((awaitedFrom_zero True).mpr trivial)

theorem Sorts.required_cons (ho : ¬ t.IsOperator) (hn : ¬ t.IsNegated) (h : Sorts False ts q) :
    Sorts False (t :: ts) { q with must := Term.ofText t.kind t.body :: q.must } := by
  obtain ⟨hx, hopt, hreq⟩ := h.behind t False (by simp [ho, hn])
  refine ⟨hx.skip fun h0 => hn (negated_zero.mp h0), hopt.skip ?_, hreq.take ?_ t.gives_ofText⟩
  · exact fun hc => (awaitedFrom_zero False).mp hc.2
  · exact ⟨sought_zero.mpr ⟨ho, hn⟩, (awaitedFrom_zero False).mp⟩

theorem sorts_classifyFrom (pending : Bool) (ts : List Token) :
    Sorts (pending = true) ts (classifyFrom pending ts) := by
  induction ts generalizing pending with
  | nil => exact sorts_nil
  | cons t ts ih =>
    by_cases ho : t.IsOperator
    · rw [classifyFrom_or (t.isOr_iff.mpr ho)]
      have h := ih true
      rw [eq_self_iff_true] at h
      exact h.operator ho
    have ho' : t.isOr = false := Bool.eq_false_iff.mpr fun h => ho (t.isOr_iff.mp h)
    by_cases hn : t.IsNegated
    · rw [classifyFrom_negated ho' (Token.negated?_of_isNegated hn)]
      exact (ih pending).negated hn
    have hbody : t.body = t.value.toList := if_neg hn
    have h := ih false
    rw [Bool.false_eq_true] at h
    rw [classifyFrom_sought ho' (Token.negated?_eq_none ho hn), ← hbody]
    cases pending with
    | true => simpa using h.optional_cons ho hn
    | false => simpa using h.required_cons ho hn

/-- There are as many terms as tokens that are no operators. -/
theorem length_classifyFrom (pending : Bool) (ts : List Token) :
    (classifyFrom pending ts).must.length + (classifyFrom pending ts).should.length +
      (classifyFrom pending ts).not.length = ts.countP (fun t => ¬ t.IsOperator) := by
  induction ts generalizing pending with
  | nil => rfl
  | cons t ts ih =>
    by_cases ho : t.IsOperator
    · rw [classifyFrom_or (t.isOr_iff.mpr ho), ih true, List.countP_cons_of_neg (by simpa using ho)]
    have ho' : t.isOr = false := Bool.eq_false_iff.mpr fun h => ho (t.isOr_iff.mp h)
    rw [List.countP_cons_of_pos (by simpa using ho)]
    cases hn : t.negated? with
    | some word =>
      have h := ih pending
      simp only [classifyFrom_negated ho' hn, List.length_cons]
      omega
    | none =>
      have h := ih false
      rw [classifyFrom_sought ho' hn]
      cases pending <;> simp only [Bool.false_eq_true, ↓reduceIte, List.length_cons] <;> omega

/-- The excluded terms are those of the negated positions. Of the positions that are neither negated
nor operators, the awaited ones give the optional terms and the others the required ones. -/
theorem classify_sorts_by_position (ts : List Token) :
    Gathers ts (Negated ts) (classify ts).not ∧
      Gathers ts (fun i => Sought ts i ∧ Awaited ts i) (classify ts).should ∧
      Gathers ts (fun i => Sought ts i ∧ ¬ Awaited ts i) (classify ts).must ∧
      (classify ts).must.length + (classify ts).should.length + (classify ts).not.length =
        ts.countP (fun t => ¬ t.IsOperator) := by
  have h := sorts_classifyFrom false ts
  have hawaited : ∀ i, AwaitedFrom (false = true) ts i ↔ Awaited ts i := by
    intro i
    simp [AwaitedFrom]
  refine ⟨h.excluded, h.optional.congr fun i => ?_, h.required.congr fun i => ?_,
    length_classifyFrom false ts⟩
  · rw [hawaited]
  · rw [hawaited]

end Passage.Query
