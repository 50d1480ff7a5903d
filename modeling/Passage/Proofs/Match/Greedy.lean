import Passage.Proofs.Match.Expression
import Passage.Proofs.Match.Pieces
import Passage.Proofs.Match.Satisfies

/-!
# The greedy sequence of matches

The matches of a term are read off its occurrences alone: the leftmost one, then the
leftmost one that does not begin before the end of the last, and so on until there is
none. An empty occurrence at the very end of the last match is passed over. There is one
such sequence, and it is what cutting a text yields.
-/

namespace Passage.Match

open Text

/-- The occurrence may follow a match that has ended at `last`. -/
structure Follows (t : Query.Term) (o : Options) (text : List Char) (last : Option Nat) (r : Span) :
    Prop where
  occurs : OccursAt t o text r.start r.stop
  behind : ∀ k ∈ last, k ≤ r.start
  apart : ∀ k ∈ last, ¬ (r.start = k ∧ r.stop = k)

/-- Each span is the first occurrence that may follow the one before, and none follows the last. -/
inductive Greedy (t : Query.Term) (o : Options) (text : List Char) : Option Nat → List Span → Prop
  | done {last : Option Nat} : (∀ r, ¬ Follows t o text last r) → Greedy t o text last []
  | next {last : Option Nat} {r : Span} {rs : List Span} : Follows t o text last r →
      (∀ s, Follows t o text last s → r.start ≤ s.start) → Greedy t o text (some r.stop) rs →
      Greedy t o text last (r :: rs)

/-! ## Occurrences inside a text -/

section

variable {t : Query.Term} {o : Options} {text : List Char}

theorem OccursAt.bounds {i j : Nat} (h : OccursAt t o text i j) : i ≤ j ∧ j ≤ text.length := by
  obtain ⟨hi, hl, rfl, _⟩ := (occursAt_iff t o text i j).mp h
  have hr := reach_le hl
  rw [List.length_drop] at hr
  omega

/-- At one position a term has one occurrence at most. -/
theorem OccursAt.unique {i j k : Nat} (hj : OccursAt t o text i j) (hk : OccursAt t o text i k) :
    j = k :=
  ((occursAt_iff t o text i j).mp hj).2.2.1.trans ((occursAt_iff t o text i k).mp hk).2.2.1.symm

theorem Follows.unique {last : Option Nat} {r s : Span} (hr : Follows t o text last r)
    (hs : Follows t o text last s) (h : r.start = s.start) : r = s := by
  obtain ⟨i, j⟩ := r
  obtain ⟨i', k⟩ := s
  obtain rfl : i = i' := h
  exact congrArg (Span.mk i) (hr.occurs.unique hs.occurs)

/-- There is one greedy sequence. -/
theorem Greedy.unique {last : Option Nat} {rs ss : List Span} (hr : Greedy t o text last rs)
    (hs : Greedy t o text last ss) : rs = ss := by
  induction hr generalizing ss with
  | done hnone =>
    cases hs with
    | done _ => rfl
    | next hf _ _ => exact absurd hf (hnone _)
  | next hf hleast _ ih =>
    cases hs with
    | done hnone => exact absurd hf (hnone _)
    | next hf' hleast' hrest =>
      obtain rfl := hf.unique hf' (Nat.le_antisymm (hleast _ hf') (hleast' _ hf))
      rw [ih hrest]

/-- Not only the next match but every later one may follow the last. -/
theorem Greedy.follows {last : Option Nat} {rs : List Span} (h : Greedy t o text last rs) :
    ∀ r ∈ rs, Follows t o text last r := by
  induction h with
  | done _ => nofun
  | @next last r rs hf _ _ ih =>
    refine List.forall_mem_cons.mpr ⟨hf, fun s hs => ?_⟩
    have hr := hf.occurs.bounds.1
    have hrs := (ih s hs).behind r.stop rfl
    refine ⟨(ih s hs).occurs, fun k hk => ?_, fun k hk he => ?_⟩
    · have hkr := hf.behind k hk
      omega
    · have hkr := hf.behind k hk
      exact hf.apart k hk (by omega)

/-- The spans ascend without overlapping, and no two begin at one position. -/
theorem Greedy.ascending {last : Option Nat} {rs : List Span} (h : Greedy t o text last rs) :
    rs.Pairwise (fun r s => r.stop ≤ s.start ∧ r.start < s.start) := by
  induction h with
  | done _ => exact .nil
  | @next last r rs hf _ hrest ih =>
    refine .cons (fun s hs => ?_) ih
    have hfs := hrest.follows s hs
    have hrs := hfs.behind r.stop rfl
    refine ⟨hrs, Nat.lt_of_le_of_ne (Nat.le_trans hf.occurs.bounds.1 hrs) fun he => ?_⟩
    have hstop : r.stop = s.stop := by
      have ho := hfs.occurs
      rw [← he] at ho
      exact hf.occurs.unique ho
    have hr := hf.occurs.bounds.1
    exact hfs.apart r.stop rfl (by omega)

end

/-! ## Cutting is greedy -/

/-- Where cutting has come to: nothing that may follow the last match begins before position `i`,
and if `joined` the last match ends there. -/
structure Reached (t : Query.Term) (o : Options) (text : List Char) (last : Option Nat) (i : Nat)
    (joined : Bool) : Prop where
  inside : i ≤ text.length
  passed : ∀ r, Follows t o text last r → i ≤ r.start
  adjacent : joined = true → last = some i
  separate : joined = false → ∀ k ∈ last, k < i

variable {t : Query.Term} {o : Options} {text : List Char} {last : Option Nat} {i : Nat}
  {joined : Bool}

theorem reached_stop {j : Nat} (hj : j ≤ text.length) : Reached t o text (some j) j true :=
  ⟨hj, fun _ hr => hr.behind j rfl, fun _ => rfl, nofun⟩

theorem Reached.behind (h : Reached t o text last i joined) : ∀ k ∈ last, k ≤ i := by
  intro k hk
  cases joined with
  | true =>
    rw [h.adjacent rfl] at hk
    cases hk
    exact Nat.le_refl i
  | false => exact Nat.le_of_lt (h.separate rfl k hk)

/-- No match begins at the position, so the next one begins behind it. -/
theorem Reached.skip (h : Reached t o text last i joined) (hi : i < text.length)
    (hnone : ∀ r, Follows t o text last r → r.start ≠ i) :
    Reached t o text last (i + 1) false := by
  refine ⟨hi, fun r hr => ?_, nofun, fun _ k hk => Nat.lt_succ_of_le (h.behind k hk)⟩
  have hge := h.passed r hr
  have hne := hnone r hr
  omega

theorem Reached.follows {n : Nat} (h : Reached t o text last i joined)
    (ho : OccursAt t o text i (i + n)) (hn : n = 0 → joined = false) :
    Follows t o text last ⟨i, i + n⟩ := by
  refine ⟨ho, h.behind, fun k hk he => ?_⟩
  have hlt := h.separate (hn (by simp only at he; omega)) k hk
  simp only at he
  omega

/-- What is found at a position is the term's occurrence there. -/
theorem lengthAt?_of_follows {r : Span} (hr : Follows t o text last r) :
    (Pattern.ofTerm t o).lengthAt? (prior none text r.start) (text.drop r.start) =
      some (r.stop - r.start) := by
  have hb := hr.occurs.bounds
  rw [lengthAt?_eq_some_iff t o text (Nat.le_trans hb.1 hb.2), Nat.add_sub_cancel' hb.1]
  exact hr.occurs

/-- Behind a match that ends at the position an empty occurrence there is passed over. -/
theorem Reached.skip_empty (h : Reached t o text (some i) i true) (hi : i < text.length)
    (hz : (Pattern.ofTerm t o).lengthAt? (prior none text i) (text.drop i) = some 0) :
    Reached t o text (some i) (i + 1) false := by
  refine h.skip hi fun r hr he => hr.apart i rfl ⟨he, ?_⟩
  have hl := lengthAt?_of_follows hr
  have hb := hr.occurs.bounds.1
  rw [he, hz, Option.some.injEq] at hl
  omega

theorem drop_eq_cons {c : Char} {rest : List Char} (h : c :: rest = text.drop i) :
    i < text.length ∧ rest = text.drop (i + 1) ∧ some c = prior none text (i + 1) := by
  have hi : i < text.length := by
    have hl := congrArg List.length h
    rw [List.length_drop, List.length_cons] at hl
    omega
  rw [List.drop_eq_getElem_cons hi] at h
  obtain ⟨rfl, rfl⟩ := List.cons.inj h
  exact ⟨hi, rfl, (List.getElem?_eq_getElem hi).symm⟩

theorem getLast?_take_drop {n : Nat} (h : i + (n + 1) ≤ text.length) :
    ((text.drop i).take (n + 1)).getLast? = prior none text (i + (n + 1)) := by
  have hi : i + n < text.length := by omega
  rw [List.getLast?_take, if_neg (Nat.succ_ne_zero n), List.getElem?_drop, Nat.add_sub_cancel,
    prior, if_neg (by omega), show i + (n + 1) - 1 = i + n from rfl, List.getElem?_eq_getElem hi]
  rfl

/-- At the end of the text only an empty occurrence is left. -/
theorem Follows.at_end {r : Span} (hr : Follows t o text last r) (hend : text.length ≤ i)
    (hi : i ≤ r.start) : r.start = i ∧ r.stop = i := by
  have hb := hr.occurs.bounds
  omega

/-- What cutting goes on to find are the matches that follow. -/
theorem greedy_cut (h : Reached t o text last i joined) {before : Option Char} {s : List Char}
    (hs : s = text.drop i) (hb : before = prior none text i) :
    Greedy t o text last
      (spansFrom List.length i ((Pattern.ofTerm t o).cut before joined s)) := by
  induction before, joined, s using Pattern.cut.induct (Pattern.ofTerm t o) generalizing i last with
  | case1 before joined hc =>
    obtain ⟨hsome, hj⟩ := Bool.and_eq_true_iff.mp hc
    obtain ⟨n, hn⟩ := Option.isSome_iff_exists.mp hsome
    have hend := List.drop_eq_nil_iff.mp hs.symm
    rw [hs, hb] at hn
    have ho := (lengthAt?_eq_some_iff t o text h.inside n).mp hn
    obtain rfl : n = 0 := by
      have hstop := ho.bounds.2
      omega
    rw [Pattern.cut, if_pos hc]
    refine .next (h.follows ho fun _ => by simpa using hj) h.passed (.done fun r hr => ?_)
    exact hr.apart i rfl (hr.at_end hend (hr.behind i rfl))
  | case2 before joined hc =>
    have hend := List.drop_eq_nil_iff.mp hs.symm
    rw [Pattern.cut, if_neg hc]
    refine .done fun r hr => ?_
    obtain ⟨hstart, hstop⟩ := hr.at_end hend (h.passed r hr)
    have hl := lengthAt?_of_follows hr
    rw [hstart, ← hs, ← hb] at hl
    have hj : joined = true := by simpa [hl] using hc
    exact hr.apart i (h.adjacent hj) ⟨hstart, hstop⟩
  | case3 before joined c rest hn ih =>
    obtain ⟨hi, hrest, hc⟩ := drop_eq_cons hs
    rw [Pattern.cut, hn]
    refine ih (h.skip hi fun r hr he => ?_) hrest hc
    have hl := lengthAt?_of_follows hr
    rw [he, ← hs, ← hb, hn] at hl
    cases hl
  | case4 before c rest hz ih =>
    obtain ⟨hi, hrest, hc⟩ := drop_eq_cons hs
    obtain rfl := h.adjacent rfl
    rw [Pattern.cut, hz]
    exact ih (h.skip_empty hi (by rw [← hs, ← hb, hz])) hrest hc
  | case5 before joined c rest hz hj ih =>
    obtain ⟨hi, hrest, hc⟩ := drop_eq_cons hs
    have hz' : (Pattern.ofTerm t o).lengthAt? (prior none text i) (text.drop i) = some 0 := by
      rw [← hs, ← hb, hz]
    rw [Pattern.cut, hz]
    simp only [hj]
    have ho := (lengthAt?_eq_some_iff t o text h.inside 0).mp hz'
    refine .next (h.follows ho fun _ => by simpa using hj)
      h.passed ?_
    exact ih ((reached_stop h.inside).skip_empty hi hz') hrest hc
  | case6 before joined c rest n hsome ih =>
    have hsome' : (Pattern.ofTerm t o).lengthAt? (prior none text i) (text.drop i) =
        some (n + 1) := by
      rw [← hs, ← hb, hsome]
    have ho := (lengthAt?_eq_some_iff t o text h.inside (n + 1)).mp hsome'
    have hhit : c :: rest.take n = (text.drop i).take (n + 1) := by rw [← hs]; rfl
    have hlen : (c :: rest.take n).length = n + 1 := by
      have hb := ho.bounds.2
      rw [hhit, List.length_take, List.length_drop]
      omega
    rw [Pattern.cut, hsome]
    simp only [spansFrom_hit, hlen]
    have hfollows := h.follows ho fun hn => absurd hn (Nat.succ_ne_zero n)
    refine .next hfollows h.passed (ih (reached_stop ho.bounds.2) ?_ ?_)
    · rw [← List.drop_drop, ← hs]
      rfl
    · rw [hhit, getLast?_take_drop ho.bounds.2]

theorem greedy_spans (t : Query.Term) (o : Options) (text : List Char) :
    Greedy t o text none ((Pattern.ofTerm t o).spans text) := by
  have hstart : Reached t o text none 0 false :=
    ⟨Nat.zero_le _, fun _ _ => Nat.zero_le _, nofun, fun _ _ hk => by cases hk⟩
  exact greedy_cut hstart rfl rfl

theorem occursIn_iff_spans_ne_nil (p : Pattern) (text : List Char) :
    p.occursIn text ↔ p.spans text ≠ [] := by
  rw [Pattern.occursIn, Pattern.spans, ne_eq, spansFrom_eq_nil_iff, Bool.not_eq_false]

/-- The matches of a term that compiles are the one greedy sequence of its occurrences, and these
are what is marked. They ascend without overlapping and end between characters, and the term is
found exactly if there is one. The expression that the pattern's source writes down matches at a
position where the term occurs, to the same end, and nothing is ever tried twice for it. -/
theorem spans_are_greedy {t : Query.Term} {o : Options} {p : Pattern}
    (hp : compileTerm o t = .ok p) (text : List Char) :
    (Greedy t o text none (p.spans text) ∧
      ∀ rs, Greedy t o text none rs → rs = p.spans text) ∧
    p.mark text = wrapped 0 (p.spans text) text ∧
    (p.spans text).Pairwise (fun r s => r.stop ≤ s.start ∧ r.start < s.start) ∧
    (∀ r ∈ p.spans text, r.start ≤ r.stop ∧ r.stop ≤ text.length) ∧
    p.byteSpans text = (p.spans text).map (Span.inBytes text) ∧
    (p.occursIn text ↔ p.spans text ≠ []) ∧
    ∃ e, Expression.read p.source = some e ∧ ∀ i ≤ text.length,
      e.directEnd? o.caseSensitive text i = e.endAt? o.caseSensitive text i ∧
        ∀ j, e.endAt? o.caseSensitive text i = some j ↔ OccursAt t o text i j := by
  obtain rfl := compileTerm_eq_ok hp
  have hg := greedy_spans t o text
  refine ⟨⟨hg, fun rs hr => hr.unique hg⟩, mark_eq_wrapped _ text, hg.ascending,
    fun r hr => (hg.follows r hr).occurs.bounds, byteSpans_eq _ text,
    occursIn_iff_spans_ne_nil _ text, _, read_source _, fun i hi => ⟨?_, ?_⟩⟩
  · exact Expression.directEnd?_expression (Pattern.ofTerm t o) text i
  · exact Expression.endAt?_eq_some_iff t o text hi

/-- A lone `*` matches each word, and is empty between other characters but not behind a word. -/
theorem spans_are_greedy_lone_wildcard :
    let t : Query.Term := ⟨.plain, "", true⟩
    compileTerm {} t = .ok (Pattern.ofTerm t {}) ∧
      Greedy t {} "ab, c".toList none [⟨0, 2⟩, ⟨3, 3⟩, ⟨4, 5⟩] := by
  intro t
  have hp : compileTerm {} t = .ok (Pattern.ofTerm t {}) := rfl
  have hs : (Pattern.ofTerm t {}).spans "ab, c".toList = [⟨0, 2⟩, ⟨3, 3⟩, ⟨4, 5⟩] := by
    decide +kernel
  exact ⟨hp, hs ▸ (spans_are_greedy hp "ab, c".toList).1.1⟩

end Passage.Match
