import Passage.Terminal.Highlight

/-!
# Reading past markers

A scanner that stands at every character in turn, drops an opening marker, drops a
closing one that has an opening before it, and copies all else. Showing marked text
skips whole stretches, but it shows what the scanner copies, and with colours it
paints the copied characters in marks, line feeds apart.
-/

namespace Passage.Terminal

open Match (markOpen markClose markOpen_eq markClose_eq)

theorem stripFront?_eq_some {front s rest : List Char} :
    stripFront? front s = some rest ↔ s = front ++ rest := by
  unfold stripFront?
  split
  · next h =>
    rw [Option.some.injEq]
    constructor
    · intro hrest
      have hs := List.take_append_drop front.length s
      rw [h, hrest] at hs
      exact hs.symm
    · intro hs
      rw [hs]
      exact List.drop_left
  · next h =>
    simp only [reduceCtorEq, false_iff]
    intro hs
    subst hs
    exact h List.take_left

theorem stripFront?_eq_none {front s : List Char} :
    stripFront? front s = none ↔ ¬ front <+: s := by
  constructor
  · intro h hs
    obtain ⟨rest, rfl⟩ := hs
    rw [stripFront?_eq_some.mpr rfl] at h
    cases h
  · intro h
    cases hs : stripFront? front s with
    | none => rfl
    | some rest => exact absurd ⟨rest, (stripFront?_eq_some.mp hs).symm⟩ h

/-- A character that is copied, with the number of marks open there. -/
structure Shown where
  char : Char
  depth : Nat
  deriving DecidableEq, Repr

/-- The characters of the text without its markers, `depth` marks being open. -/
def shown (depth : Nat) (s : List Char) : List Shown :=
  match _h : s with
  | [] => []
  | c :: rest =>
    if markOpen <+: s then shown (depth + 1) (s.drop markOpen.length)
    else if depth ≠ 0 ∧ markClose <+: s then shown (depth - 1) (s.drop markClose.length)
    else ⟨c, depth⟩ :: shown depth rest
termination_by s.length
decreasing_by
  all_goals subst _h; simp [markOpen_eq, markClose_eq]; try omega

theorem shown_open (depth : Nat) (s : List Char) :
    shown depth (markOpen ++ s) = shown (depth + 1) s := by
  rw [shown.eq_def]
  simp [markOpen_eq]

theorem shown_close (depth : Nat) (s : List Char) :
    shown (depth + 1) (markClose ++ s) = shown depth s := by
  rw [shown.eq_def]
  simp [markOpen_eq, markClose_eq]

theorem shown_copy {depth : Nat} {c : Char} {s : List Char} (ho : ¬ markOpen <+: c :: s)
    (hc : ¬ (depth ≠ 0 ∧ markClose <+: c :: s)) :
    shown depth (c :: s) = ⟨c, depth⟩ :: shown depth s := by
  rw [shown.eq_def]
  simp only [ho, hc, ↓reduceIte]

theorem not_prefix_of_ne {c : Char} (hc : c ≠ '<') (s : List Char) :
    ¬ markOpen <+: c :: s ∧ ¬ markClose <+: c :: s := by
  constructor
  · intro h
    obtain ⟨rest, h⟩ := h
    exact hc (List.cons.inj h).1.symm
  · intro h
    obtain ⟨rest, h⟩ := h
    exact hc (List.cons.inj h).1.symm

theorem shown_stretch (depth : Nat) {w : List Char} (hw : ∀ c ∈ w, c ≠ '<') (s : List Char) :
    shown depth (w ++ s) = w.map (⟨·, depth⟩) ++ shown depth s := by
  induction w with
  | nil => rfl
  | cons c w ih =>
    have hc := not_prefix_of_ne (hw c List.mem_cons_self) (w ++ s)
    rw [List.cons_append, shown_copy hc.1 (fun h => hc.2 h.2),
      ih fun d hd => hw d (List.mem_cons_of_mem c hd), List.map_cons, List.cons_append]

/-- The text without its markers, `depth` marks being open. -/
def unmark (depth : Nat) (s : List Char) : List Char :=
  match _h : s with
  | [] => []
  | c :: rest =>
    if markOpen <+: s then unmark (depth + 1) (s.drop markOpen.length)
    else if depth ≠ 0 ∧ markClose <+: s then unmark (depth - 1) (s.drop markClose.length)
    else c :: unmark depth rest
termination_by s.length
decreasing_by
  all_goals subst _h; simp [markOpen_eq, markClose_eq]; try omega

theorem unmark_eq_map_shown (depth : Nat) (s : List Char) :
    unmark depth s = (shown depth s).map Shown.char := by
  induction depth, s using shown.induct with
  | case1 depth => rw [unmark, shown]; rfl
  | case2 depth c rest ho ih => rw [unmark, if_pos ho, shown, if_pos ho, ih]
  | case3 depth c rest ho hc ih =>
    rw [unmark, if_neg ho, if_pos hc, shown, if_neg ho, if_pos hc, ih]
  | case4 depth c rest ho hc ih =>
    rw [unmark, if_neg ho, if_neg hc, shown, if_neg ho, if_neg hc, ih, List.map_cons]

theorem unmark_open (depth : Nat) (s : List Char) :
    unmark depth (markOpen ++ s) = unmark (depth + 1) s := by
  rw [unmark_eq_map_shown, shown_open, ← unmark_eq_map_shown]

theorem unmark_close (depth : Nat) (s : List Char) :
    unmark (depth + 1) (markClose ++ s) = unmark depth s := by
  rw [unmark_eq_map_shown, shown_close, ← unmark_eq_map_shown]

theorem unmark_copy {depth : Nat} {c : Char} {s : List Char} (ho : ¬ markOpen <+: c :: s)
    (hc : ¬ (depth ≠ 0 ∧ markClose <+: c :: s)) :
    unmark depth (c :: s) = c :: unmark depth s := by
  rw [unmark_eq_map_shown, shown_copy ho hc, List.map_cons, ← unmark_eq_map_shown]

theorem map_char_stretch (depth : Nat) (w : List Char) :
    (w.map (Shown.mk · depth)).map Shown.char = w := by
  rw [List.map_map]
  exact List.map_id w

theorem unmark_stretch (depth : Nat) {w : List Char} (hw : ∀ c ∈ w, c ≠ '<') (s : List Char) :
    unmark depth (w ++ s) = w ++ unmark depth s := by
  rw [unmark_eq_map_shown, shown_stretch depth hw, List.map_append, map_char_stretch,
    ← unmark_eq_map_shown]

/-! ## Showing -/

/-- Whether the character is in colour: a highlight ends in front of a line feed. -/
def Shown.isLit (x : Shown) : Bool := 0 < x.depth && x.char ≠ '\n'

/-- The text in which runs of such characters are painted, and all others stand as they are. -/
inductive Painted (colors : Bool) : List Shown → List Char → Prop
  | nil : Painted colors [] []
  | bare {x : Shown} {xs : List Shown} {out : List Char} : x.isLit = false →
      Painted colors xs out → Painted colors (x :: xs) (x.char :: out)
  | run {run xs : List Shown} {out : List Char} : (∀ x ∈ run, x.isLit) → Painted colors xs out →
      Painted colors (run ++ xs) (Style.highlight.paint colors (run.map Shown.char) ++ out)

theorem Painted.bares {colors : Bool} {run xs : List Shown} {out : List Char}
    (hr : ∀ x ∈ run, x.isLit = false) (h : Painted colors xs out) :
    Painted colors (run ++ xs) (run.map Shown.char ++ out) := by
  induction run with
  | nil => exact h
  | cons x run ih =>
    obtain ⟨hx, hr⟩ := List.forall_mem_cons.mp hr
    exact .bare hx (ih hr)

/-- Without colours the copied characters are all there is. -/
theorem Painted.eq_map {xs : List Shown} {out : List Char} (h : Painted false xs out) :
    out = xs.map Shown.char := by
  induction h with
  | nil => rfl
  | bare _ _ ih => rw [ih, List.map_cons]
  | run _ _ ih => rw [ih, List.map_append]; rfl

/-- A stretch without line feeds is painted as a whole or not at all. -/
theorem painted_stretch {colors : Bool} {depth : Nat} {w : List Char} {xs : List Shown}
    {out : List Char} (hw : ∀ c ∈ w, c ≠ '\n') (h : Painted colors xs out) :
    Painted colors (w.map (⟨·, depth⟩) ++ xs)
      ((if depth = 0 then w else Style.highlight.paint colors w) ++ out) := by
  have hlit : ∀ x ∈ w.map (Shown.mk · depth), x.isLit = decide (depth ≠ 0) := by
    intro x hx
    obtain ⟨c, hc, rfl⟩ := List.mem_map.mp hx
    simp [Shown.isLit, hw c hc, Nat.pos_iff_ne_zero]
  split
  · next hd =>
    have hbare := Painted.bares (fun x hx => (hlit x hx).trans (by simp [hd])) h
    rwa [map_char_stretch] at hbare
  · next hd =>
    have hrun := Painted.run (fun x hx => (hlit x hx).trans (by simp [hd])) h
    rwa [map_char_stretch] at hrun

theorem showFrom_cons (colors : Bool) (depth : Nat) (c : Char) (rest : List Char) :
    showFrom colors depth (c :: rest) =
      match stripFront? markOpen (c :: rest) with
      | some after => showFrom colors (depth + 1) after
      | none =>
        match (if depth = 0 then none else stripFront? markClose (c :: rest)) with
        | some after => showFrom colors (depth - 1) after
        | none =>
          if c = '\n' then c :: showFrom colors depth rest
          else
            (if depth = 0 then c :: rest.takeWhile (!isStop ·)
              else Style.highlight.paint colors (c :: rest.takeWhile (!isStop ·))) ++
                showFrom colors depth (rest.dropWhile (!isStop ·)) := by
  rw [showFrom.eq_def]
  dsimp only
  split
  · next ho => rw [ho]
  · next ho =>
    rw [ho]
    dsimp only
    split
    · next hc => rw [hc]
    · next hc => rw [hc]

/-- A stretch holds neither a `<` nor a line feed. -/
theorem not_isStop_of_mem {c : Char} {s : List Char} (h : c ∈ s.takeWhile (!isStop ·)) :
    c ≠ '<' ∧ c ≠ '\n' := by
  have hstop := List.all_eq_true.mp List.all_takeWhile c h
  simpa [isStop] using hstop

/-- Showing copies what the scanner copies, and paints what of it is in marks. -/
theorem painted_showFrom (colors : Bool) (depth : Nat) (s : List Char) :
    Painted colors (shown depth s) (showFrom colors depth s) := by
  induction depth, s using showFrom.induct with
  | case1 depth => rw [showFrom, shown]; exact .nil
  | case2 depth c rest after ho ih =>
    rw [showFrom_cons, ho, stripFront?_eq_some.mp ho, shown_open]
    exact ih
  | case3 depth c rest after ho hc ih =>
    cases depth with
    | zero => cases hc
    | succ depth =>
      have hs : stripFront? markClose (c :: rest) = some after := hc
      rw [showFrom_cons, ho, if_neg (Nat.succ_ne_zero depth), hs, stripFront?_eq_some.mp hs,
        shown_close]
      exact ih
  | case4 depth rest ho hc ih =>
    have hn := not_prefix_of_ne (c := '\n') (by decide) rest
    rw [dite_eq_ite] at hc
    rw [showFrom_cons, ho, hc, shown_copy hn.1 fun h => hn.2 h.2]
    exact .bare (by simp [Shown.isLit]) ih
  | case5 depth c rest hn ho hc ih =>
    rw [dite_eq_ite] at hc
    have hclose : ¬ (depth ≠ 0 ∧ markClose <+: c :: rest) := by
      intro h
      obtain ⟨hd, h⟩ := h
      rw [if_neg hd] at hc
      exact stripFront?_eq_none.mp hc h
    have hshown := shown_stretch depth (w := rest.takeWhile (!isStop ·))
      (fun d hd => (not_isStop_of_mem hd).1) (rest.dropWhile (!isStop ·))
    rw [List.takeWhile_append_dropWhile] at hshown
    have hbreak : ∀ d ∈ c :: rest.takeWhile (!isStop ·), d ≠ '\n' :=
      List.forall_mem_cons.mpr ⟨hn, fun d hd => (not_isStop_of_mem hd).2⟩
    rw [showFrom_cons, ho, hc, shown_copy (stripFront?_eq_none.mp ho) hclose, hshown]
    simp only [hn, ↓reduceIte]
    exact painted_stretch hbreak ih

/-- Showing without colours is reading past the markers, character by character. -/
theorem showFrom_false (depth : Nat) (s : List Char) : showFrom false depth s = unmark depth s := by
  rw [(painted_showFrom false depth s).eq_map, unmark_eq_map_shown]

end Passage.Terminal
