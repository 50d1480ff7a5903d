import Mathlib.Data.List.TakeWhile
import Mathlib.Tactic.Tauto
import Passage.Document
import Passage.Proofs.Text.Trim

/-!
# Paragraphs of a text

A text without carriage returns is white space, a paragraph, white space, and so on. No
paragraph holds two line breaks in a row, and all white space between two paragraphs does.
There is one way to lay a text out like this, and its paragraphs are those of the text.
Nothing is said of what a line break is: only the line feed counts as one.
-/

namespace Passage

open Text

/-! ## Layouts -/

/-- The text has two line breaks in a row. -/
def Broken (s : List Char) : Prop := ['\n', '\n'] <:+: s

instance (s : List Char) : Decidable (Broken s) := inferInstanceAs (Decidable (_ <:+: _))

structure IsParagraph (p : List Char) : Prop where
  nonempty : p ≠ []
  trimmed : Trimmed p
  unbroken : ¬ Broken p

instance (p : List Char) : Decidable (IsParagraph p) :=
  decidable_of_iff (p ≠ [] ∧ Trimmed p ∧ ¬ Broken p)
    ⟨fun ⟨a, b, c⟩ => ⟨a, b, c⟩, fun ⟨a, b, c⟩ => ⟨a, b, c⟩⟩

/-- A gap, and then paragraphs with a gap behind each of them. -/
@[ext]
structure Layout where
  lead : List Char
  parts : List (List Char × List Char)
  deriving DecidableEq, Repr

namespace Layout

def textOf (parts : List (List Char × List Char)) : List Char :=
  parts.flatMap fun x => x.1 ++ x.2

def text (l : Layout) : List Char := l.lead ++ textOf l.parts

def paragraphs (l : Layout) : List (List Char) := l.parts.map Prod.fst

/-- The gaps behind the paragraphs. -/
def gaps (l : Layout) : List (List Char) := l.parts.map Prod.snd

/-- The paragraphs are such, the gaps are white space, and every gap between two paragraphs has a
blank line. -/
structure Of (l : Layout) (text : List Char) : Prop where
  text_eq : l.text = text
  lead_blank : ∀ c ∈ l.lead, isBlank c
  paragraph : ∀ p ∈ l.paragraphs, IsParagraph p
  gap_blank : ∀ gap ∈ l.gaps, ∀ c ∈ gap, isBlank c
  apart : ∀ gap ∈ l.gaps.dropLast, Broken gap

instance (l : Layout) (text : List Char) : Decidable (l.Of text) :=
  decidable_of_iff (l.text = text ∧ (∀ c ∈ l.lead, isBlank c) ∧
      (∀ p ∈ l.paragraphs, IsParagraph p) ∧ (∀ gap ∈ l.gaps, ∀ c ∈ gap, isBlank c) ∧
      ∀ gap ∈ l.gaps.dropLast, Broken gap)
    ⟨fun ⟨a, b, c, d, e⟩ => ⟨a, b, c, d, e⟩, fun ⟨a, b, c, d, e⟩ => ⟨a, b, c, d, e⟩⟩

end Layout

/-! ## Line breaks -/

theorem broken_cons (c : Char) (s : List Char) :
    Broken (c :: s) ↔ c = '\n' ∧ s.head? = some '\n' ∨ Broken s := by
  have hprefix : ['\n', '\n'] <+: c :: s ↔ c = '\n' ∧ s.head? = some '\n' := by
    cases s with
    | nil => simp
    | cons d s => simp [List.cons_prefix_cons, eq_comm]
  rw [Broken, List.infix_cons_iff, hprefix, Broken]

theorem broken_append (s t : List Char) :
    Broken (s ++ t) ↔ Broken s ∨ Broken t ∨ s.getLast? = some '\n' ∧ t.head? = some '\n' := by
  induction s with
  | nil => simp [Broken]
  | cons c s ih =>
    cases s with
    | nil =>
      have hnil : ¬ Broken [c] := by
        rw [broken_cons]
        simp [Broken]
      rw [List.singleton_append, broken_cons, List.getLast?_singleton, Option.some.injEq]
      tauto
    | cons d s =>
      have hhead : (d :: s ++ t).head? = (d :: s).head? := rfl
      rw [List.cons_append, broken_cons, broken_cons c (d :: s), ih, List.getLast?_cons_cons, hhead]
      tauto

theorem exists_first_break {s : List Char} (h : Broken s) :
    ∃ front back, s = front ++ '\n' :: '\n' :: back ∧ ¬ Broken (front ++ ['\n']) := by
  induction s with
  | nil => exact absurd h (by decide)
  | cons c s ih =>
    by_cases hc : c = '\n' ∧ s.head? = some '\n'
    · obtain ⟨rfl, hs⟩ := hc
      obtain ⟨back, rfl⟩ := List.head?_eq_some_iff.mp hs
      exact ⟨[], back, rfl, by decide⟩
    · obtain ⟨front, back, rfl, hfront⟩ := ih (((broken_cons c s).mp h).resolve_left hc)
      refine ⟨c :: front, back, rfl, fun hb => ?_⟩
      rcases (broken_cons c _).mp hb with hb | hb
      · apply hc
        refine ⟨hb.1, ?_⟩
        cases front with
        | nil => rfl
        | cons d front => exact hb.2
      · exact hfront hb

/-! ## Blocks -/

theorem blocks_ne_nil (s : List Char) : blocks s ≠ [] := by
  unfold blocks
  split
  · exact List.cons_ne_nil _ _
  · exact List.cons_ne_nil _ _
  · split <;> exact List.cons_ne_nil _ _

theorem blocks_cons {c : Char} {s : List Char} (h : ¬ (c = '\n' ∧ s.head? = some '\n')) :
    blocks (c :: s) = (blocks s).modifyHead (c :: ·) := by
  rw [blocks]
  · cases hs : blocks s with
    | nil => exact absurd hs (blocks_ne_nil s)
    | cons b bs => rfl
  · rintro rest rfl rfl
    exact h ⟨rfl, rfl⟩

/-- Up to its first break a text is one block. -/
theorem blocks_append_break {front : List Char} (h : ¬ Broken (front ++ ['\n']))
    (back : List Char) : blocks (front ++ '\n' :: '\n' :: back) = front :: blocks back := by
  induction front with
  | nil => rfl
  | cons c front ih =>
    rw [List.cons_append, broken_cons, not_or] at h
    rw [List.cons_append, blocks_cons, ih h.2]
    · rfl
    · cases front with
      | nil => exact h.1
      | cons d front => exact h.1

theorem blocks_unbroken {s : List Char} (h : ¬ Broken s) : blocks s = [s] := by
  induction s with
  | nil => rfl
  | cons c s ih =>
    rw [broken_cons, not_or] at h
    rw [blocks_cons h.1, ih h.2]
    rfl

/-! ## Pieces -/

/-- The blocks of a text once they are trimmed and the empty ones dropped. -/
def pieces (s : List Char) : List (List Char) := ((blocks s).map trim).filter (· ≠ [])

theorem pieces_nil : pieces [] = [] := rfl

theorem pieces_of_blocks {s b : List Char} {bs : List (List Char)} (h : blocks s = b :: bs)
    (hb : trim b ≠ []) : pieces s = trim b :: (bs.map trim).filter (· ≠ []) := by
  rw [pieces, h, List.map_cons, List.filter_cons_of_pos (by simpa using hb)]

/-- A blank in front leaves the pieces as they are, also where it makes a blank line. -/
theorem pieces_cons_blank {c : Char} (hc : isBlank c) (s : List Char) :
    pieces (c :: s) = pieces s := by
  induction s generalizing c with
  | nil =>
    have hblocks : blocks [c] = [[c]] := by
      rw [blocks_cons (by simp)]
      rfl
    rw [pieces, hblocks, List.map_singleton, trim_cons_blank hc]
    rfl
  | cons d s ih =>
    by_cases h : c = '\n' ∧ d = '\n'
    · obtain ⟨rfl, rfl⟩ := h
      have hskip : pieces ('\n' :: '\n' :: s) = pieces s := rfl
      rw [hskip, ih hc]
    · rw [pieces, blocks_cons (by simpa using h), pieces]
      obtain ⟨b, bs, hbs⟩ := List.exists_cons_of_ne_nil (blocks_ne_nil (d :: s))
      rw [hbs, List.modifyHead_cons, List.map_cons, List.map_cons, trim_cons_blank hc]

theorem pieces_blanks_append {gap : List Char} (h : ∀ c ∈ gap, isBlank c) (s : List Char) :
    pieces (gap ++ s) = pieces s := by
  induction gap with
  | nil => rfl
  | cons c gap ih =>
    obtain ⟨hc, hgap⟩ := List.forall_mem_cons.mp h
    rw [List.cons_append, pieces_cons_blank hc, ih hgap]

namespace IsParagraph

variable {p : List Char}

theorem head?_ne (h : IsParagraph p) : p.head? ≠ some '\n' := by
  intro hp
  cases h.trimmed.front '\n' hp

theorem getLast?_ne (h : IsParagraph p) : p.getLast? ≠ some '\n' := by
  intro hp
  cases h.trimmed.back '\n' hp

theorem broken_append_iff (h : IsParagraph p) (s : List Char) : Broken (p ++ s) ↔ Broken s := by
  rw [broken_append]
  simp [h.unbroken, h.getLast?_ne]

/-- A paragraph is the first piece of a text if white space with a blank line follows it, or white
space up to the end. -/
theorem pieces_append_gap (h : IsParagraph p) {gap : List Char} (hgap : ∀ c ∈ gap, isBlank c)
    {rest : List Char} (hrest : Broken gap ∨ rest = []) :
    pieces (p ++ (gap ++ rest)) = p :: pieces rest := by
  have hkept : ∀ back, (∀ c ∈ back, isBlank c) → trim (p ++ back) = p := by
    intro back hback
    rw [trim_append_blanks hback, trim_of_trimmed h.trimmed]
  by_cases hb : Broken gap
  · obtain ⟨front, back, rfl, hfirst⟩ := exists_first_break hb
    have hfront : ∀ c ∈ front, isBlank c := fun c hc => hgap c (List.mem_append_left _ hc)
    have hback : ∀ c ∈ back, isBlank c := fun c hc => hgap c (by simp [hc])
    have hunbroken : ¬ Broken (p ++ front ++ ['\n']) := by
      rwa [List.append_assoc, h.broken_append_iff]
    have htext : p ++ ((front ++ '\n' :: '\n' :: back) ++ rest) =
        (p ++ front) ++ '\n' :: '\n' :: (back ++ rest) := by simp
    rw [htext, pieces_of_blocks (blocks_append_break hunbroken _)
      (by rw [hkept _ hfront]; exact h.nonempty), hkept _ hfront, ← pieces,
      pieces_blanks_append hback]
  · obtain rfl := hrest.resolve_left hb
    rw [List.append_nil, pieces_of_blocks (blocks_unbroken (mt (h.broken_append_iff gap).mp hb))
      (by rw [hkept _ hgap]; exact h.nonempty), hkept _ hgap, pieces_nil]
    rfl

theorem singleton {c : Char} (hc : isBlank c = false) : IsParagraph [c] := by
  refine ⟨List.cons_ne_nil c [], ⟨?_, ?_⟩, ?_⟩
  · simpa using hc
  · simpa using hc
  · rw [broken_cons]
    simp [Broken]

/-- A paragraph still is one with a character and unbroken white space in front of it. -/
theorem cons (h : IsParagraph p) {c : Char} (hc : isBlank c = false) {gap : List Char}
    (hgap : ¬ Broken gap) : IsParagraph (c :: (gap ++ p)) := by
  refine ⟨List.cons_ne_nil _ _, ⟨?_, ?_⟩, ?_⟩
  · simpa using hc
  · rw [← List.cons_append, List.getLast?_append,
      Option.or_of_isSome (List.getLast?_isSome.mpr h.nonempty)]
    exact h.trimmed.back
  · have hne : c ≠ '\n' := by
      rintro rfl
      cases hc
    rw [broken_cons, broken_append]
    simp [hne, hgap, h.unbroken, h.head?_ne]

end IsParagraph

/-! ## Laying out a text -/

namespace Layout

theorem mem_text {l : Layout} {p : List Char} (hp : p ∈ l.paragraphs) {c : Char} (hc : c ∈ p) :
    c ∈ l.text := by
  obtain ⟨x, hx, rfl⟩ := List.mem_map.mp hp
  exact List.mem_append_right _ (List.mem_flatMap.mpr ⟨x, hx, List.mem_append_left _ hc⟩)

theorem exists_of (s : List Char) : ∃ l : Layout, l.Of s := by
  induction s with
  | nil => exact ⟨⟨[], []⟩, rfl, nofun, nofun, nofun, nofun⟩
  | cons c s ih =>
    obtain ⟨⟨lead, parts⟩, rfl, hlead, hp, hgap, hapart⟩ := ih
    by_cases hc : isBlank c
    · exact ⟨⟨c :: lead, parts⟩, rfl, List.forall_mem_cons.mpr ⟨hc, hlead⟩, hp, hgap, hapart⟩
    rw [Bool.not_eq_true] at hc
    cases parts with
    | nil =>
      refine ⟨⟨[], [([c], lead)]⟩, ?_, nofun, ?_, ?_, nofun⟩
      · simp [text, textOf]
      · exact List.forall_mem_singleton.mpr (.singleton hc)
      · exact List.forall_mem_singleton.mpr hlead
    | cons x parts =>
      obtain ⟨hx, hp⟩ := List.forall_mem_cons.mp hp
      by_cases hb : Broken lead
      · -- the character is a paragraph of its own
        refine ⟨⟨[], ([c], lead) :: x :: parts⟩, rfl, nofun, ?_, ?_, ?_⟩
        · exact List.forall_mem_cons.mpr ⟨.singleton hc, List.forall_mem_cons.mpr ⟨hx, hp⟩⟩
        · exact List.forall_mem_cons.mpr ⟨hlead, hgap⟩
        · exact List.forall_mem_cons.mpr ⟨hb, hapart⟩
      · refine ⟨⟨[], (c :: (lead ++ x.1), x.2) :: parts⟩, ?_, nofun, ?_, hgap, hapart⟩
        · simp [text, textOf]
        · exact List.forall_mem_cons.mpr ⟨hx.cons hc hb, hp⟩

theorem pieces_textOf {parts : List (List Char × List Char)}
    (hp : ∀ p ∈ parts.map Prod.fst, IsParagraph p)
    (hg : ∀ gap ∈ parts.map Prod.snd, ∀ c ∈ gap, isBlank c)
    (ha : ∀ gap ∈ (parts.map Prod.snd).dropLast, Broken gap) {gap : List Char}
    (hgap : ∀ c ∈ gap, isBlank c) {b : List Char} (hb : Broken gap ∨ b = []) :
    pieces (textOf parts ++ (gap ++ b)) = parts.map Prod.fst ++ pieces b := by
  induction parts with
  | nil => exact pieces_blanks_append hgap b
  | cons x parts ih =>
    obtain ⟨hx, hp⟩ := List.forall_mem_cons.mp hp
    obtain ⟨hxg, hg⟩ := List.forall_mem_cons.mp hg
    cases parts with
    | nil =>
      have hall : ∀ c ∈ x.2 ++ gap, isBlank c := by
        intro c hc
        exact (List.mem_append.mp hc).elim (hxg c) (hgap c)
      have hend : Broken (x.2 ++ gap) ∨ b = [] :=
        hb.imp_left fun h => (broken_append x.2 gap).mpr (Or.inr (Or.inl h))
      have htext : textOf [x] ++ (gap ++ b) = x.1 ++ ((x.2 ++ gap) ++ b) := by simp [textOf]
      rw [htext, hx.pieces_append_gap hall hend]
      rfl
    | cons y parts =>
      obtain ⟨hbroken, ha⟩ := List.forall_mem_cons.mp ha
      have htext : textOf (x :: y :: parts) ++ (gap ++ b) =
          x.1 ++ (x.2 ++ (textOf (y :: parts) ++ (gap ++ b))) := by simp [textOf]
      rw [htext, hx.pieces_append_gap hxg (Or.inl hbroken), ih hp hg ha]
      rfl

namespace Of

variable {l m : Layout} {s : List Char}

theorem pieces_append (h : l.Of s) {gap : List Char} (hgap : ∀ c ∈ gap, isBlank c)
    {b : List Char} (hb : Broken gap ∨ b = []) :
    pieces (s ++ (gap ++ b)) = l.paragraphs ++ pieces b := by
  rw [← h.text_eq, text, List.append_assoc, pieces_blanks_append h.lead_blank]
  exact pieces_textOf h.paragraph h.gap_blank h.apart hgap hb

theorem pieces_eq (h : l.Of s) : pieces s = l.paragraphs := by
  have hend : pieces (s ++ ([] ++ [])) = l.paragraphs ++ pieces [] :=
    h.pieces_append (List.forall_mem_nil _) (Or.inr rfl)
  rwa [List.append_nil, List.append_nil, pieces_nil, List.append_nil] at hend

end Of

end Layout

/-- White space with a blank line between two texts parts their pieces. -/
theorem pieces_append (a : List Char) {gap : List Char} (hgap : ∀ c ∈ gap, isBlank c)
    {b : List Char} (hb : Broken gap ∨ b = []) :
    pieces (a ++ (gap ++ b)) = pieces a ++ pieces b := by
  obtain ⟨l, hl⟩ := Layout.exists_of a
  rw [hl.pieces_append hgap hb, hl.pieces_eq]

theorem pieces_trim (s : List Char) : pieces (trim s) = pieces s := by
  obtain ⟨front, back, hs, hfront, hback⟩ := exists_around_trim s
  have hend := pieces_append (trim s) hback (b := []) (Or.inr rfl)
  rw [List.append_nil, pieces_nil, List.append_nil] at hend
  rw [congrArg pieces hs, pieces_blanks_append hfront, hend]

theorem paragraphs_eq (s : List Char) : paragraphs s = pieces (s.filter (· ≠ '\r')) :=
  pieces_trim _

/-! ## One layout -/

theorem takeWhile_blanks_append {gap s : List Char} (hgap : ∀ c ∈ gap, isBlank c)
    (hs : ∀ c ∈ s.head?, isBlank c = false) : (gap ++ s).takeWhile isBlank = gap := by
  have hstop : s.takeWhile isBlank = [] := by
    cases s with
    | nil => rfl
    | cons c s => rw [List.takeWhile_cons_of_neg (by rw [hs c rfl]; decide)]
  rw [List.takeWhile_append_of_pos hgap, hstop, List.append_nil]

namespace Layout

theorem head?_textOf {parts : List (List Char × List Char)}
    (hp : ∀ p ∈ parts.map Prod.fst, IsParagraph p) :
    ∀ c ∈ (textOf parts).head?, isBlank c = false := by
  cases parts with
  | nil => nofun
  | cons x parts =>
    have hx := hp x.1 List.mem_cons_self
    obtain ⟨c, cs, hc⟩ := List.exists_cons_of_ne_nil hx.nonempty
    have hfront := hx.trimmed.front
    rw [hc] at hfront
    simpa [textOf, hc] using hfront

/-- The gaps can be told from the paragraphs: each ends where the next paragraph begins. -/
theorem parts_unique {parts others : List (List Char × List Char)}
    (hp : ∀ p ∈ parts.map Prod.fst, IsParagraph p)
    (hg : ∀ gap ∈ parts.map Prod.snd, ∀ c ∈ gap, isBlank c)
    (hg' : ∀ gap ∈ others.map Prod.snd, ∀ c ∈ gap, isBlank c)
    (hsame : parts.map Prod.fst = others.map Prod.fst) (htext : textOf parts = textOf others) :
    parts = others := by
  induction parts generalizing others with
  | nil => exact (List.map_eq_nil_iff.mp hsame.symm).symm
  | cons x parts ih =>
    cases others with
    | nil => cases hsame
    | cons y others =>
      obtain ⟨hxy, hrest⟩ := List.cons.inj hsame
      obtain ⟨_, hp⟩ := List.forall_mem_cons.mp hp
      obtain ⟨hx, hg⟩ := List.forall_mem_cons.mp hg
      obtain ⟨hy, hg'⟩ := List.forall_mem_cons.mp hg'
      have hbehind : x.2 ++ textOf parts = y.2 ++ textOf others := by
        have h : x.1 ++ (x.2 ++ textOf parts) = y.1 ++ (y.2 ++ textOf others) := by
          simpa [textOf] using htext
        rw [hxy] at h
        exact List.append_cancel_left h
      have hgap : x.2 = y.2 := by
        rw [← takeWhile_blanks_append hx (head?_textOf hp), hbehind,
          takeWhile_blanks_append hy (head?_textOf (hrest ▸ hp))]
      rw [hgap] at hbehind
      rw [Prod.ext hxy hgap, ih hp hg hg' hrest (List.append_cancel_left hbehind)]

theorem Of.unique {l m : Layout} {s : List Char} (hl : l.Of s) (hm : m.Of s) : l = m := by
  have htext : l.lead ++ textOf l.parts = m.lead ++ textOf m.parts :=
    hl.text_eq.trans hm.text_eq.symm
  have hlead : l.lead = m.lead := by
    rw [← takeWhile_blanks_append hl.lead_blank (head?_textOf hl.paragraph), htext,
      takeWhile_blanks_append hm.lead_blank (head?_textOf hm.paragraph)]
  rw [hlead] at htext
  have hsame : l.paragraphs = m.paragraphs := hl.pieces_eq.symm.trans hm.pieces_eq
  exact Layout.ext hlead (parts_unique hl.paragraph hl.gap_blank hm.gap_blank hsame
    (List.append_cancel_left htext))

/-- The gaps hold all that is not in the paragraphs. -/
theorem Of.filter_eq {l : Layout} {s : List Char} (h : l.Of s) :
    l.paragraphs.flatten.filter (!isBlank ·) = s.filter (!isBlank ·) := by
  have hblank : ∀ gap : List Char, (∀ c ∈ gap, isBlank c) → gap.filter (!isBlank ·) = [] := by
    intro gap hgap
    exact List.filter_eq_nil_iff.mpr fun c hc => by simp [hgap c hc]
  have hparts : ∀ parts : List (List Char × List Char),
      (∀ gap ∈ parts.map Prod.snd, ∀ c ∈ gap, isBlank c) →
        (parts.map Prod.fst).flatten.filter (!isBlank ·) = (textOf parts).filter (!isBlank ·) := by
    intro parts hg
    induction parts with
    | nil => rfl
    | cons x parts ih =>
      obtain ⟨hx, hg⟩ := List.forall_mem_cons.mp hg
      have htext : textOf (x :: parts) = x.1 ++ (x.2 ++ textOf parts) := by simp [textOf]
      rw [htext, List.map_cons, List.flatten_cons, List.filter_append, List.filter_append,
        List.filter_append, ih hg, hblank x.2 hx, List.nil_append]
  rw [← h.text_eq, text, List.filter_append, hblank l.lead h.lead_blank, List.nil_append]
  exact hparts l.parts h.gap_blank

end Layout

/-- Without its carriage returns a text has one layout, and the paragraphs of the layout are those
of the text. The characters that are not white space are all kept, in their order. -/
theorem paragraphsOf_eq_of_layout (text : String) :
    let plain := text.toList.filter (· ≠ '\r')
    (∃! l : Layout, l.Of plain) ∧
      (∀ l : Layout, l.Of plain → paragraphsOf text = l.paragraphs.map String.ofList) ∧
      ((paragraphsOf text).flatMap String.toList).filter (!isBlank ·) =
        text.toList.filter (!isBlank ·) := by
  intro plain
  obtain ⟨l, hl⟩ := Layout.exists_of plain
  have hparagraphs (m : Layout) (hm : m.Of plain) :
      paragraphsOf text = m.paragraphs.map String.ofList := by
    rw [paragraphsOf, paragraphs_eq, hm.pieces_eq]
  refine ⟨⟨l, hl, fun m hm => hm.unique hl⟩, hparagraphs, ?_⟩
  have hback : (paragraphsOf text).flatMap String.toList = l.paragraphs.flatten := by
    rw [hparagraphs l hl, List.flatMap_map]
    simp
  have hplain : plain.filter (!isBlank ·) = text.toList.filter (!isBlank ·) := by
    rw [List.filter_filter]
    refine List.filter_congr fun c _ => ?_
    by_cases hc : c = '\r'
    · subst hc
      rfl
    · simp [hc]
  rw [hback, hl.filter_eq, hplain]

/-- Carriage returns, a line of blanks inside a paragraph and blank lines of several kinds. -/
theorem paragraphsOf_eq_of_layout_breaks :
    let text := "\t one\r\n\r\ntwo \n \n two\n\n \u2028\n\r\nthree\r\n"
    let l : Layout := ⟨"\t ".toList, [("one".toList, "\n\n".toList),
      ("two \n \n two".toList, "\n\n \u2028\n\n".toList), ("three".toList, "\n".toList)]⟩
    l.Of (text.toList.filter (· ≠ '\r')) ∧
      paragraphsOf text = ["one", "two \n \n two", "three"] := by
  intro text l
  have hl : l.Of (text.toList.filter (· ≠ '\r')) := by decide +kernel
  exact ⟨hl, (paragraphsOf_eq_of_layout text).2.1 l hl⟩

end Passage
