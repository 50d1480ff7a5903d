import Passage.Proofs.Match.Occurs

/-!
# The written form of a pattern

A pattern's source is read back as an expression, and an expression is run by
backtracking: every way to go on is kept, the preferred one first. The first end
that this gives is the end of the term's occurrence, and there is none exactly
where the term does not stand. Only the operators that patterns use are read.
-/

namespace Passage.Match

open Text

inductive Item
  | char (c : Char)
  /-- Word characters, as many as possible first. -/
  | words
  | boundary
  deriving DecidableEq, Repr

abbrev Expression := List Item

namespace Item

/-- The ends of a greedy run of word characters: one more is tried before none. -/
def runEnds (i : Nat) : List Char → List Nat
  | [] => [i]
  | c :: s => if isWord c then runEnds (i + 1) s ++ [i] else [i]

/-- Where an item that begins at a position may end, the preferred end first. -/
def ends (sensitive : Bool) (text : List Char) (i : Nat) : Item → List Nat
  | char c => if text[i]?.any (if sensitive then (c == ·) else CaseFold.same c) then [i + 1] else []
  | words => runEnds i (text.drop i)
  | boundary => if isBoundary (prior none text i) text[i]? then [i] else []

end Item

namespace Expression

/-- Where a match that begins at a position may end, the preferred end first. -/
def ends (sensitive : Bool) (text : List Char) : Expression → Nat → List Nat
  | [], i => [i]
  | x :: rest, i => (x.ends sensitive text i).flatMap (ends sensitive text rest)

/-- The end of the match that begins at a position. -/
def endAt? (sensitive : Bool) (text : List Char) (e : Expression) (i : Nat) : Option Nat :=
  (e.ends sensitive text i).head?

def matchesIn (sensitive : Bool) (text : List Char) (e : Expression) : Prop :=
  ∃ i ≤ text.length, (e.endAt? sensitive text i).isSome

/-- Reads an expression; a character with a meaning of its own stands for itself behind `\`. -/
def read : List Char → Option Expression
  | [] => some []
  | '(' :: '?' :: '-' :: 'u' :: ':' :: '\\' :: 'w' :: ')' :: '*' :: s => (read s).map (.words :: ·)
  | '(' :: '?' :: '-' :: 'u' :: ':' :: '\\' :: 'b' :: ')' :: s => (read s).map (.boundary :: ·)
  | '\\' :: c :: s =>
    if c ∈ Pattern.metacharacters then (read s).map (.char c :: ·) else none
  | c :: s => if c ∈ Pattern.metacharacters then none else (read s).map (.char c :: ·)

end Expression

/-- The expression that a pattern's source writes down. -/
def Pattern.expression (p : Pattern) : Expression :=
  let edge := if p.options.wholeWord then [Item.boundary] else []
  edge ++ p.literal.map .char ++ (if p.openEnded then [.words] else []) ++ edge

/-! ## Reading the source -/

theorem read_cons_literal {c : Char} (hc : c ∉ Pattern.metacharacters) (s : List Char) :
    Expression.read (c :: s) = (Expression.read s).map (.char c :: ·) := by
  have hp : c ≠ '(' := fun h => hc (h ▸ by decide)
  have hb : c ≠ '\\' := fun h => hc (h ▸ by decide)
  simp [Expression.read, hp, hb, hc]

theorem read_escaped {c : Char} (hc : c ∈ Pattern.metacharacters) (s : List Char) :
    Expression.read ('\\' :: c :: s) = (Expression.read s).map (.char c :: ·) := by
  simp [Expression.read, hc]

theorem read_escape (l s : List Char) :
    Expression.read (Pattern.escape l ++ s) = (Expression.read s).map (l.map .char ++ ·) := by
  induction l with
  | nil => simp [Pattern.escape]
  | cons c l ih =>
    have hcons : Pattern.escape (c :: l) ++ s =
        (if c ∈ Pattern.metacharacters then ['\\', c] else [c]) ++ (Pattern.escape l ++ s) := by
      simp [Pattern.escape]
    rw [hcons]
    by_cases hc : c ∈ Pattern.metacharacters
    · rw [if_pos hc, List.cons_append, List.cons_append, List.nil_append, read_escaped hc, ih]
      simp [Function.comp_def]
    · rw [if_neg hc, List.cons_append, List.nil_append, read_cons_literal hc, ih]
      simp [Function.comp_def]

theorem read_wordRun (s : List Char) :
    Expression.read (Pattern.wordRun ++ s) = (Expression.read s).map (.words :: ·) := rfl

theorem read_wordBoundary (s : List Char) :
    Expression.read (Pattern.wordBoundary ++ s) = (Expression.read s).map (.boundary :: ·) := rfl

/-- The source of a pattern says what the pattern is, whatever its literal contains. -/
theorem read_source (p : Pattern) : Expression.read p.source = some p.expression := by
  obtain ⟨literal, openEnded, ⟨sensitive, wholeWord⟩⟩ := p
  have hrun : ∀ s, Expression.read ((if openEnded then Pattern.wordRun else []) ++ s) =
      (Expression.read s).map ((if openEnded then [.words] else []) ++ ·) := by
    intro s
    cases openEnded with
    | true => exact read_wordRun s
    | false => simp
  have hedge : ∀ s, Expression.read ((if wholeWord then Pattern.wordBoundary else []) ++ s) =
      (Expression.read s).map ((if wholeWord then [.boundary] else []) ++ ·) := by
    intro s
    cases wholeWord with
    | true => exact read_wordBoundary s
    | false => simp
  have hsource : (⟨literal, openEnded, ⟨sensitive, wholeWord⟩⟩ : Pattern).source =
      (if wholeWord then Pattern.wordBoundary else []) ++ (Pattern.escape literal ++
        ((if openEnded then Pattern.wordRun else []) ++
          ((if wholeWord then Pattern.wordBoundary else []) ++ []))) := by
    cases wholeWord <;> simp [Pattern.source]
  rw [hsource, hedge, read_escape, hrun, hedge]
  simp [Expression.read, Pattern.expression]

/-! ## Running an expression -/

namespace Expression

theorem ends_append (sensitive : Bool) (text : List Char) (e f : Expression) (i : Nat) :
    ends sensitive text (e ++ f) i =
      (ends sensitive text e i).flatMap (ends sensitive text f) := by
  induction e generalizing i with
  | nil => simp [ends]
  | cons x e ih =>
    rw [List.cons_append, ends, ends, List.flatMap_assoc]
    exact congrArg (List.flatMap · _) (funext ih)

/-- A literal has one end or none. -/
theorem ends_literal (p : Pattern) (text : List Char) (l : List Char) (i : Nat) :
    ends p.options.caseSensitive text (l.map .char) i =
      if p.literalAt l (text.drop i) then [i + l.length] else [] := by
  induction l generalizing i with
  | nil => simp [ends, Pattern.literalAt]
  | cons a l ih =>
    have hagree : (if p.options.caseSensitive then (a == ·) else CaseFold.same a) = p.agrees a := by
      funext b
      simp only [Pattern.agrees]
      split <;> rfl
    rw [List.map_cons, ends, Item.ends, hagree]
    cases hd : text[i]? with
    | none =>
      rw [List.drop_eq_nil_of_le (List.getElem?_eq_none_iff.mp hd)]
      simp [Pattern.literalAt]
    | some b =>
      obtain ⟨hi, rfl⟩ := List.getElem?_eq_some_iff.mp hd
      rw [List.drop_eq_getElem_cons hi, Pattern.literalAt]
      by_cases h : p.agrees a text[i]
      · simp [h, ih, Nat.add_assoc, Nat.add_comm 1]
      · simp [h]

theorem ends_boundary (sensitive : Bool) (text : List Char) (i : Nat) [Decidable (EdgeAt text i)] :
    ends sensitive text [.boundary] i = if EdgeAt text i then [i] else [] := by
  simp only [ends, Item.ends, isBoundary_iff]
  by_cases h : EdgeAt text i <;> simp [h]

/-- The longest end of a run comes first, and an empty run has no other end. -/
theorem runEnds_eq (i : Nat) (s : List Char) :
    ∃ more, Item.runEnds i s = (i + (s.takeWhile isWord).length) :: more ∧
      ((s.takeWhile isWord).length = 0 → more = []) := by
  induction s generalizing i with
  | nil => exact ⟨[], rfl, fun _ => rfl⟩
  | cons c s ih =>
    by_cases hc : isWord c
    · obtain ⟨more, hm, _⟩ := ih (i + 1)
      refine ⟨more ++ [i], ?_, ?_⟩
      · rw [Item.runEnds, if_pos hc, hm, List.takeWhile_cons_of_pos hc, List.length_cons,
          List.cons_append, Nat.add_assoc, Nat.add_comm 1]
      · intro h
        rw [List.takeWhile_cons_of_pos hc] at h
        cases h
    · refine ⟨[], ?_, fun _ => rfl⟩
      rw [Item.runEnds, if_neg hc, List.takeWhile_cons_of_neg hc]
      rfl

/-- A run that is not empty ends at an edge, so its longest end is never given up. -/
theorem edgeAt_of_run (text : List Char) {i j : Nat} (h : MaximalRun text i j) (hij : i < j) :
    EdgeAt text j := by
  have hw := h.words (j - 1) (by omega) (by omega)
  exact ⟨fun _ => h.stops, fun _ => ⟨by omega, hw⟩⟩

open Classical in
theorem head?_ends_stop (p : Pattern) (text : List Char) (k : Nat) :
    (ends p.options.caseSensitive text ((if p.openEnded then [.words] else []) ++
        if p.options.wholeWord then [.boundary] else []) k).head? =
      let j := k + if p.openEnded then ((text.drop k).takeWhile isWord).length else 0
      if p.options.wholeWord → EdgeAt text j then some j else none := by
  cases ho : p.openEnded with
  | false =>
    cases hw : p.options.wholeWord with
    | false => simp [ends]
    | true =>
      simp only [Bool.false_eq_true, ↓reduceIte, List.nil_append, ends_boundary, Nat.add_zero,
        forall_const]
      split <;> rfl
  | true =>
    obtain ⟨more, hm, hz⟩ := runEnds_eq k (text.drop k)
    have hrun := (maximalRun_iff text k _).mpr rfl
    generalize ((text.drop k).takeWhile isWord).length = r at hm hz hrun
    cases hw : p.options.wholeWord with
    | false => simp [ends, Item.ends, hm]
    | true =>
      simp only [↓reduceIte, List.cons_append, List.nil_append, forall_const]
      rw [ends, Item.ends, hm, List.flatMap_cons, ends_boundary]
      by_cases he : EdgeAt text (k + r)
      · simp [he]
      · have hr : r = 0 := Nat.eq_zero_of_not_pos fun h => he (edgeAt_of_run text hrun (by omega))
        simp [he, hz hr]

open Classical in
/-- The preferred match of a pattern's expression is the pattern's one occurrence. -/
theorem endAt?_expression (p : Pattern) (text : List Char) (i : Nat) :
    p.expression.endAt? p.options.caseSensitive text i =
      if p.literalAt p.literal (text.drop i) ∧
          (p.options.wholeWord → EdgeAt text i ∧ EdgeAt text (i + p.reach (text.drop i)))
      then some (i + p.reach (text.drop i)) else none := by
  have hstop := head?_ends_stop p text (i + p.literal.length)
  have hreach : i + p.reach (text.drop i) = i + p.literal.length + if p.openEnded then
      ((text.drop (i + p.literal.length)).takeWhile isWord).length else 0 := by
    rw [Pattern.reach, List.drop_drop, Nat.add_assoc]
  rw [← hreach] at hstop
  have hbody : (ends p.options.caseSensitive text (p.literal.map .char ++
      ((if p.openEnded then [.words] else []) ++
        if p.options.wholeWord then [.boundary] else [])) i).head? =
      if p.literalAt p.literal (text.drop i) ∧
        (p.options.wholeWord → EdgeAt text (i + p.reach (text.drop i)))
      then some (i + p.reach (text.drop i)) else none := by
    rw [ends_append, ends_literal]
    by_cases hl : p.literalAt p.literal (text.drop i)
    · simp [hl, hstop]
    · simp [hl]
  rw [endAt?, Pattern.expression, List.append_assoc, List.append_assoc, ends_append]
  cases hw : p.options.wholeWord with
  | false => simpa [hw, ends] using hbody
  | true =>
    simp only [hw, ↓reduceIte, forall_const] at hbody
    simp only [↓reduceIte, ends_boundary, forall_const]
    by_cases he : EdgeAt text i
    · simp [he, hbody]
    · simp [he]

/-! ## Going on without going back -/

/-- The end of the match if every item is held to its preferred end. -/
def directEnd? (sensitive : Bool) (text : List Char) : Expression → Nat → Option Nat
  | [], i => some i
  | x :: rest, i => (x.ends sensitive text i).head?.bind (directEnd? sensitive text rest)

theorem directEnd?_append (sensitive : Bool) (text : List Char) (e f : Expression) (i : Nat) :
    directEnd? sensitive text (e ++ f) i =
      (directEnd? sensitive text e i).bind (directEnd? sensitive text f) := by
  induction e generalizing i with
  | nil => rfl
  | cons x e ih =>
    rw [List.cons_append, directEnd?, directEnd?, Option.bind_assoc]
    exact congrArg (Option.bind _) (funext ih)

/-- Only a run of word characters has more ends than one. -/
theorem ends_eq_toList {sensitive : Bool} {text : List Char} {e : Expression} (he : Item.words ∉ e)
    (i : Nat) : ends sensitive text e i = (directEnd? sensitive text e i).toList := by
  induction e generalizing i with
  | nil => rfl
  | cons x e ih =>
    obtain ⟨hx, he'⟩ := not_or.mp fun h => he (List.mem_cons.mpr h)
    have hif : ∀ (b : Bool) (j : Nat),
        (if b then [j] else []) = (if b then [j] else []).head?.toList := by
      intro b j
      cases b <;> rfl
    have hone : x.ends sensitive text i = (x.ends sensitive text i).head?.toList := by
      cases x with
      | char c => exact hif _ _
      | boundary => exact hif _ _
      | words => exact absurd rfl hx
    rw [ends, directEnd?, hone]
    cases (x.ends sensitive text i).head? with
    | none => rfl
    | some j => simpa using ih he' j

open Classical in
theorem directEnd?_edge (p : Pattern) (text : List Char) (k : Nat) :
    directEnd? p.options.caseSensitive text (if p.options.wholeWord then [.boundary] else []) k =
      if p.options.wholeWord → EdgeAt text k then some k else none := by
  cases p.options.wholeWord with
  | false => simp [directEnd?]
  | true =>
    simp only [↓reduceIte, forall_const, directEnd?, Item.ends, isBoundary_iff]
    split <;> rfl

/-- The end of a run is not given up for the boundary behind it. -/
theorem directEnd?_stop (p : Pattern) (text : List Char) (k : Nat) :
    directEnd? p.options.caseSensitive text ((if p.openEnded then [.words] else []) ++
        if p.options.wholeWord then [.boundary] else []) k =
      endAt? p.options.caseSensitive text ((if p.openEnded then [.words] else []) ++
        if p.options.wholeWord then [.boundary] else []) k := by
  rw [endAt?, head?_ends_stop, directEnd?_append]
  cases p.openEnded with
  | false => exact directEnd?_edge p text k
  | true =>
    obtain ⟨more, hm, _⟩ := runEnds_eq k (text.drop k)
    simp only [↓reduceIte, directEnd?, Item.ends, hm, List.head?_cons, Option.bind_some,
      directEnd?_edge]
    rfl

/-- A pattern's match is found without ever giving up a character of its run. -/
theorem directEnd?_expression (p : Pattern) (text : List Char) (i : Nat) :
    p.expression.directEnd? p.options.caseSensitive text i =
      p.expression.endAt? p.options.caseSensitive text i := by
  have hfront : Item.words ∉ (if p.options.wholeWord then [Item.boundary] else []) ++
      p.literal.map .char := by
    split <;> simp
  rw [endAt?, Pattern.expression, List.append_assoc, ends_append, directEnd?_append,
    ends_eq_toList hfront]
  cases directEnd? _ _ _ i with
  | none => rfl
  | some k => simpa [endAt?] using directEnd?_stop p text k

/-! ## Matches and occurrences -/

theorem endAt?_eq_some_iff (t : Query.Term) (o : Options) (text : List Char) {i : Nat}
    (hi : i ≤ text.length) (j : Nat) :
    (Pattern.ofTerm t o).expression.endAt? o.caseSensitive text i = some j ↔
      OccursAt t o text i j := by
  have h := endAt?_expression (Pattern.ofTerm t o) text i
  rw [show (Pattern.ofTerm t o).options = o from rfl] at h
  rw [h, occursAt_iff, and_iff_right hi]
  split
  · next hc =>
    rw [Option.some.injEq]
    constructor
    · intro hj
      subst hj
      exact ⟨hc.1, rfl, hc.2⟩
    · exact fun hj => hj.2.1.symm
  · next hc =>
    simp only [reduceCtorEq, false_iff]
    intro h
    obtain ⟨hl, rfl, he⟩ := h
    exact hc ⟨hl, he⟩

/-- Running the source of a term's pattern finds a match exactly if the term occurs. -/
theorem matchesIn_iff (t : Query.Term) (o : Options) (text : List Char) :
    (Pattern.ofTerm t o).expression.matchesIn o.caseSensitive text ↔ Occurs t o text := by
  constructor
  · intro h
    obtain ⟨i, hi, h⟩ := h
    obtain ⟨j, hj⟩ := Option.isSome_iff_exists.mp h
    exact ⟨i, j, (endAt?_eq_some_iff t o text hi j).mp hj⟩
  · intro h
    obtain ⟨i, j, h⟩ := h
    exact ⟨i, h.inside, Option.isSome_iff_exists.mpr
      ⟨j, (endAt?_eq_some_iff t o text h.inside j).mpr h⟩⟩

end Expression

end Passage.Match
