import Passage.Match.Mark

/-!
# Texts in pieces

A text that is cut at matches is put together again from its pieces, and the spans of
the hits say all that is needed to mark it. The spans are in ascending order and do not
overlap, whatever was matched.
-/

namespace Passage.Match

open Text

/-- The text that was cut. -/
def textOf (xs : List Piece) : List Char := xs.flatMap Piece.text

/-- The text with the hits between markers. -/
def markedText (xs : List Piece) : List Char := xs.flatMap Piece.marked

/-- The text with each of the ascending spans between markers, its first character at place `i`. -/
def wrapped (i : Nat) : List Span → List Char → List Char
  | [], s => s
  | r :: rs, s =>
    s.take (r.start - i) ++ markOpen ++ (s.drop (r.start - i)).take (r.stop - r.start) ++
      markClose ++ wrapped r.stop rs (s.drop (r.stop - i))

theorem textOf_cons (x : Piece) (xs : List Piece) : textOf (x :: xs) = x.text ++ textOf xs := rfl

theorem textOf_append (xs ys : List Piece) : textOf (xs ++ ys) = textOf xs ++ textOf ys :=
  List.flatMap_append

theorem textOf_keeps (w : List Char) : textOf (w.map .keep) = w := by
  induction w with
  | nil => rfl
  | cons c w ih => exact congrArg (c :: ·) ih

theorem markedText_cons (x : Piece) (xs : List Piece) :
    markedText (x :: xs) = x.marked ++ markedText xs := rfl

theorem markedText_append (xs ys : List Piece) :
    markedText (xs ++ ys) = markedText xs ++ markedText ys :=
  List.flatMap_append

theorem markedText_keeps (w : List Char) : markedText (w.map .keep) = w := by
  induction w with
  | nil => rfl
  | cons c w ih => exact congrArg (c :: ·) ih

/-- Cutting loses nothing of the text. -/
theorem textOf_cut (p : Pattern) (before : Option Char) (joined : Bool) (s : List Char) :
    textOf (p.cut before joined s) = s := by
  induction before, joined, s using Pattern.cut.induct p with
  | case1 before joined h => rw [Pattern.cut, if_pos h]; rfl
  | case2 before joined h => rw [Pattern.cut, if_neg h]; rfl
  | case3 before joined c rest h ih =>
    rw [Pattern.cut, h]
    exact congrArg (c :: ·) ih
  | case4 before c rest h ih =>
    rw [Pattern.cut, h]
    exact congrArg (c :: ·) ih
  | case5 before joined c rest h hj ih =>
    rw [Pattern.cut, h]
    simp only [hj]
    exact congrArg (c :: ·) ih
  | case6 before joined c rest n h ih =>
    rw [Pattern.cut, h]
    change (c :: rest.take n) ++ textOf _ = _
    rw [ih, List.cons_append, List.take_append_drop]

theorem textOf_pieces (p : Pattern) (text : List Char) : textOf (p.pieces text) = text :=
  textOf_cut p none false text

/-! ## Spans -/

theorem spansFrom_keep (size : List Char → Nat) (i : Nat) (c : Char) (xs : List Piece) :
    spansFrom size i (.keep c :: xs) = spansFrom size (i + size [c]) xs := rfl

theorem spansFrom_hit (size : List Char → Nat) (i : Nat) (s : List Char) (xs : List Piece) :
    spansFrom size i (.hit s :: xs) = ⟨i, i + size s⟩ :: spansFrom size (i + size s) xs := rfl

theorem spansFrom_keeps (i : Nat) (w : List Char) (xs : List Piece) :
    spansFrom List.length i (w.map .keep ++ xs) = spansFrom List.length (i + w.length) xs := by
  induction w generalizing i with
  | nil => rfl
  | cons c w ih =>
    rw [List.map_cons, List.cons_append, spansFrom_keep, ih, List.length_cons, Nat.add_right_comm]
    rfl

theorem spansFrom_bounds {i : Nat} {xs : List Piece} {r : Span}
    (hr : r ∈ spansFrom List.length i xs) :
    i ≤ r.start ∧ r.start ≤ r.stop ∧ r.stop ≤ i + (textOf xs).length := by
  induction xs generalizing i with
  | nil => cases hr
  | cons x xs ih =>
    rw [textOf_cons, List.length_append]
    cases x with
    | keep c =>
      have h := ih hr
      omega
    | hit s =>
      rcases List.mem_cons.mp hr with rfl | hr
      · exact ⟨Nat.le_refl i, Nat.le_add_right i _, Nat.add_le_add_left (Nat.le_add_right _ _) i⟩
      · have h := ih hr
        omega

theorem spansFrom_ascending (i : Nat) (xs : List Piece) :
    (spansFrom List.length i xs).Pairwise (fun r s => r.stop ≤ s.start) := by
  induction xs generalizing i with
  | nil => exact .nil
  | cons x xs ih =>
    cases x with
    | keep c => exact ih _
    | hit s => exact .cons (fun r hr => (spansFrom_bounds hr).1) (ih _)

theorem spansFrom_eq_nil_iff (size : List Char → Nat) (i : Nat) (xs : List Piece) :
    spansFrom size i xs = [] ↔ xs.any Piece.isHit = false := by
  induction xs generalizing i with
  | nil => exact ⟨fun _ => rfl, fun _ => rfl⟩
  | cons x xs ih =>
    cases x with
    | keep c => exact ih _
    | hit s => simp [spansFrom_hit, Piece.isHit]

/-- A character in front of all spans stays in front. -/
theorem wrapped_cons {i : Nat} {rs : List Span} (h : ∀ r ∈ rs, i + 1 ≤ r.start ∧ r.start ≤ r.stop)
    (c : Char) (s : List Char) : wrapped i rs (c :: s) = c :: wrapped (i + 1) rs s := by
  cases rs with
  | nil => rfl
  | cons r rs =>
    obtain ⟨hstart, hstop⟩ := h r List.mem_cons_self
    obtain ⟨k, hk⟩ := Nat.exists_eq_add_of_le hstart
    obtain ⟨l, hl⟩ := Nat.exists_eq_add_of_le hstop
    have h1 : r.start - i = r.start - (i + 1) + 1 := by omega
    have h2 : r.stop - i = r.stop - (i + 1) + 1 := by omega
    rw [wrapped, wrapped, h1, h2]
    rfl

/-- The hits of a text in pieces are marked where their spans are. -/
theorem wrapped_spansFrom (i : Nat) (xs : List Piece) :
    wrapped i (spansFrom List.length i xs) (textOf xs) = markedText xs := by
  induction xs generalizing i with
  | nil => rfl
  | cons x xs ih =>
    cases x with
    | keep c =>
      change wrapped i (spansFrom List.length (i + 1) xs) (c :: textOf xs) = c :: markedText xs
      rw [wrapped_cons, ih]
      intro r hr
      have h := spansFrom_bounds hr
      exact ⟨h.1, h.2.1⟩
    | hit s =>
      rw [spansFrom_hit, textOf_cons, markedText_cons, Piece.text, Piece.marked, wrapped]
      simp only [Nat.sub_self, List.take_zero, List.drop_zero, Nat.add_sub_cancel_left,
        List.take_left, List.drop_left, List.nil_append, ih]

theorem mark_eq_wrapped (p : Pattern) (text : List Char) :
    p.mark text = wrapped 0 (p.spans text) text := by
  have h := wrapped_spansFrom 0 (p.pieces text)
  rw [textOf_pieces] at h
  exact h.symm

/-! ## Spans in bytes -/

theorem width_append (s t : List Char) : Utf8.width (s ++ t) = Utf8.width s + Utf8.width t := by
  induction s with
  | nil => simp [Utf8.width]
  | cons c s ih =>
    change c.utf8Size + Utf8.width (s ++ t) = c.utf8Size + Utf8.width s + Utf8.width t
    rw [ih, Nat.add_assoc]

/-- The same stretch with its ends in bytes. -/
def Span.inBytes (text : List Char) (r : Span) : Span :=
  ⟨Utf8.width (text.take r.start), Utf8.width (text.take r.stop)⟩

theorem spansFrom_width (front : List Char) (xs : List Piece) :
    spansFrom Utf8.width (Utf8.width front) xs =
      (spansFrom List.length front.length xs).map (Span.inBytes (front ++ textOf xs)) := by
  induction xs generalizing front with
  | nil => rfl
  | cons x xs ih =>
    have hnext := ih (front ++ x.text)
    rw [width_append, List.length_append, List.append_assoc, ← textOf_cons] at hnext
    cases x with
    | keep c => exact hnext
    | hit s =>
      have hspan : (⟨Utf8.width front, Utf8.width front + Utf8.width s⟩ : Span) =
          Span.inBytes (front ++ textOf (.hit s :: xs))
            ⟨front.length, front.length + s.length⟩ := by
        rw [Span.inBytes, textOf_cons, Piece.text, List.take_left, ← List.length_append,
          ← List.append_assoc, List.take_left, width_append]
      exact congr (congrArg List.cons hspan) hnext

/-- The ends of a match in bytes are those of characters. -/
theorem byteSpans_eq (p : Pattern) (text : List Char) :
    p.byteSpans text = (p.spans text).map (Span.inBytes text) := by
  have h := spansFrom_width [] (p.pieces text)
  rw [textOf_pieces] at h
  exact h

end Passage.Match
