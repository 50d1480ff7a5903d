import Passage.Proofs.Terminal.Unmark

/-!
# Reading coloured text

A terminal reads escape sequences and characters: the code `0` ends a colour and
every other code begins one. What it makes of shown text is said here without
looking at how the text was written. Text that has escapes of its own is left out,
since nothing tells these from the ones that are put in.
-/

namespace Passage.Terminal

/-! ## What a terminal reads -/

inductive Sign
  | sequence (code : List Char)
  | char (c : Char)
  deriving DecidableEq, Repr

namespace Sign

def code? : Sign → Option (List Char)
  | sequence code => some code
  | char _ => none

def char? : Sign → Option Char
  | sequence _ => none
  | char c => some c

end Sign

/-- The signs of a text. A sequence goes from an escape and a bracket to the next `m`. -/
def signs : List Char → List Sign
  | [] => []
  | c :: rest =>
    if c = escape ∧ rest.head? = some '[' then
      .sequence (rest.tail.takeWhile (· ≠ 'm')) :: signs (rest.tail.dropWhile (· ≠ 'm')).tail
    else .char c :: signs rest
termination_by s => s.length
decreasing_by
  · have h := (List.dropWhile_sublist (fun x => decide (x ≠ 'm')) (l := rest.tail)).length_le
    simp only [List.length_tail, List.length_cons] at h ⊢
    omega
  · simp

def resetCode : List Char := ['0']

/-- The codes of the sequences, in order. -/
def codes (xs : List Sign) : List (List Char) := xs.filterMap Sign.code?

/-- The characters, the sequences removed. -/
def letters (xs : List Sign) : List Char := xs.filterMap Sign.char?

/-- The characters, each with whether it is in colour, `on` telling so of the first one. -/
def coloured (on : Bool) : List Sign → List (Char × Bool)
  | [] => []
  | .sequence code :: xs => coloured (code ≠ resetCode) xs
  | .char c :: xs => (c, on) :: coloured on xs

theorem letters_eq_map_coloured (on : Bool) (xs : List Sign) :
    letters xs = (coloured on xs).map Prod.fst := by
  induction xs generalizing on with
  | nil => rfl
  | cons x xs ih =>
    cases x with
    | sequence code => exact ih _
    | char c => exact congrArg (c :: ·) (ih on)

theorem signs_stretch {w : List Char} (hw : escape ∉ w) (s : List Char) :
    signs (w ++ s) = w.map .char ++ signs s := by
  induction w with
  | nil => rfl
  | cons c w ih =>
    obtain ⟨hc, hw⟩ := not_or.mp fun h => hw (List.mem_cons.mpr h)
    rw [List.cons_append, signs, if_neg fun h => hc h.1.symm, ih hw]
    rfl

theorem signs_sequence {code : List Char} (hc : 'm' ∉ code) (s : List Char) :
    signs (escape :: '[' :: code ++ 'm' :: s) = .sequence code :: signs s := by
  have hcode : ∀ c ∈ code, decide (c ≠ 'm') = true := by
    intro c hm
    exact decide_eq_true fun h => hc (h ▸ hm)
  have htake : (code ++ 'm' :: s).takeWhile (· ≠ 'm') = code := by
    rw [List.takeWhile_append_of_pos hcode]
    simp
  have hdrop : (code ++ 'm' :: s).dropWhile (· ≠ 'm') = 'm' :: s := by
    rw [List.dropWhile_append_of_pos hcode]
    simp
  rw [List.cons_append, List.cons_append, signs, if_pos ⟨rfl, rfl⟩, List.tail_cons, htake, hdrop]
  rfl

/-- Nothing is opened again where there is no reset. -/
theorem reopen_eq_self {opening w : List Char} (hw : escape ∉ w) : reopen opening w = w := by
  induction w with
  | nil => rfl
  | cons c w ih =>
    obtain ⟨hc, hw⟩ := not_or.mp fun h => hw (List.mem_cons.mpr h)
    rw [reopen, ih hw]
    intro rest h
    exact absurd h.symm hc

theorem not_mem_code (style : Style) : 'm' ∉ style.code := by cases style <;> decide

/-- A painted text is read as its characters between the style's code and a reset. -/
theorem signs_paint (style : Style) {w : List Char} (hw : escape ∉ w) (s : List Char) :
    signs (style.paint true w ++ s) =
      .sequence style.code :: (w.map .char ++ .sequence resetCode :: signs s) := by
  have hreset : signs (reset ++ s) = .sequence resetCode :: signs s :=
    signs_sequence (by decide : 'm' ∉ resetCode) s
  have hpaint : style.paint true w ++ s =
      escape :: '[' :: style.code ++ 'm' :: (w ++ (reset ++ s)) := by
    simp [Style.paint, Style.opening, reopen_eq_self hw]
  rw [hpaint, signs_sequence (not_mem_code style), signs_stretch hw, hreset]

/-! ## Shown text -/

theorem mem_of_mem_shown {depth : Nat} {s : List Char} {x : Shown} (h : x ∈ shown depth s) :
    x.char ∈ s := by
  induction depth, s using shown.induct with
  | case1 depth => rw [shown] at h; cases h
  | case2 depth c rest ho ih =>
    rw [shown, if_pos ho] at h
    exact List.mem_of_mem_drop (ih h)
  | case3 depth c rest ho hc ih =>
    rw [shown, if_neg ho, if_pos hc] at h
    exact List.mem_of_mem_drop (ih h)
  | case4 depth c rest ho hc ih =>
    rw [shown, if_neg ho, if_neg hc] at h
    rcases List.mem_cons.mp h with rfl | h
    · exact List.mem_cons_self
    · exact List.mem_cons_of_mem c (ih h)

theorem coloured_chars (on : Bool) (w : List Char) (xs : List Sign) :
    coloured on (w.map .char ++ xs) = w.map (·, on) ++ coloured on xs := by
  induction w with
  | nil => rfl
  | cons c w ih => exact congrArg ((c, on) :: ·) ih

theorem codes_chars (w : List Char) (xs : List Sign) : codes (w.map .char ++ xs) = codes xs := by
  induction w with
  | nil => rfl
  | cons c w ih => exact ih

/-- The signs show the characters, those that are lit between a highlight's code and a reset. -/
structure ReadsAs (xs : List Shown) (ys : List Sign) : Prop where
  colours : coloured false ys = xs.map fun x => (x.char, x.isLit)
  alternating : ∃ n, codes ys = (List.replicate n [Style.highlight.code, resetCode]).flatten

theorem readsAs_nil : ReadsAs [] [] := ⟨rfl, 0, rfl⟩

theorem ReadsAs.bare {x : Shown} {xs : List Shown} {ys : List Sign} (hx : x.isLit = false)
    (h : ReadsAs xs ys) : ReadsAs (x :: xs) (.char x.char :: ys) where
  colours := by rw [coloured, h.colours, List.map_cons, hx]
  alternating := h.alternating

theorem ReadsAs.run {run xs : List Shown} {ys : List Sign} (hr : ∀ x ∈ run, x.isLit)
    (h : ReadsAs xs ys) :
    ReadsAs (run ++ xs) (.sequence Style.highlight.code ::
      ((run.map Shown.char).map .char ++ .sequence resetCode :: ys)) where
  colours := by
    have hlit : (run.map Shown.char).map (·, true) = run.map fun x => (x.char, x.isLit) := by
      rw [List.map_map]
      exact List.map_congr_left fun x hx => by rw [hr x hx]; rfl
    have hon : decide (Style.highlight.code ≠ resetCode) = true := by decide
    have hoff : decide (resetCode ≠ resetCode) = false := by decide
    rw [coloured, hon, coloured_chars, coloured, hoff, h.colours, hlit, List.map_append]
  alternating := by
    obtain ⟨n, hn⟩ := h.alternating
    refine ⟨n + 1, ?_⟩
    change Style.highlight.code :: codes ((run.map Shown.char).map .char ++ _) = _
    rw [codes_chars]
    change Style.highlight.code :: resetCode :: codes ys = _
    rw [hn]
    rfl

theorem Painted.readsAs {xs : List Shown} {out : List Char} (h : Painted true xs out)
    (hx : ∀ x ∈ xs, x.char ≠ escape) : ReadsAs xs (signs out) := by
  induction h with
  | nil => rw [signs]; exact readsAs_nil
  | @bare x xs out hlit _ ih =>
    obtain ⟨hc, hx⟩ := List.forall_mem_cons.mp hx
    have hsigns := signs_stretch (w := [x.char]) (by simpa using hc.symm) out
    rw [List.singleton_append] at hsigns
    rw [hsigns]
    exact (ih hx).bare hlit
  | @run run xs out hlit _ ih =>
    obtain ⟨hrun, hx⟩ := List.forall_mem_append.mp hx
    have hescape : escape ∉ run.map Shown.char := by
      intro h
      obtain ⟨x, hm, he⟩ := List.mem_map.mp h
      exact hrun x hm he
    rw [signs_paint _ hescape]
    exact (ih hx).run hlit

/-- Without colours a marked text is shown as the characters that the scanner copies. With colours,
and if the text has no escapes of its own, a terminal reads the same characters. Those that are
copied inside a mark are in colour, line feeds apart, and a colour is always ended before the next
one begins and before the end of the text. -/
theorem shown_as_scanned (text : String) :
    let copied := shown 0 text.toList
    (showMarked false text).toList = copied.map Shown.char ∧
      (escape ∉ text.toList →
        let read := signs (showMarked true text).toList
        letters read = (showMarked false text).toList ∧
          (∃ n, codes read = (List.replicate n [Style.highlight.code, resetCode]).flatten) ∧
          coloured false read = copied.map (fun x => (x.char, 0 < x.depth && x.char ≠ '\n'))) := by
  intro copied
  have hplain : (showMarked false text).toList = copied.map Shown.char := by
    rw [showMarked, String.toList_ofList, showFrom_false, unmark_eq_map_shown]
  refine ⟨hplain, fun hescape => ?_⟩
  intro read
  have hread : ReadsAs copied read := by
    have hpainted := painted_showFrom true 0 text.toList
    change ReadsAs copied (signs (showMarked true text).toList)
    rw [showMarked, String.toList_ofList]
    exact hpainted.readsAs fun x hx he => hescape (he ▸ mem_of_mem_shown hx)
  refine ⟨?_, hread.alternating, hread.colours⟩
  rw [letters_eq_map_coloured false, hread.colours, hplain, List.map_map]
  rfl

/-- Each line of a highlight is in colour, a nested mark makes no difference, and a closing marker
with no open one is text. -/
theorem shown_as_scanned_lines :
    let text := "a<mark>b<mark>\nc</mark></mark></mark>"
    escape ∉ text.toList ∧
      coloured false (signs (showMarked true text).toList) =
        "ab\nc</mark>".toList.zip ([false, true, false, true] ++ List.replicate 7 false) := by
  intro text
  have hescape : escape ∉ text.toList := by decide +kernel
  have hcoloured := ((shown_as_scanned text).2 hescape).2.2
  exact ⟨hescape, hcoloured.trans (by decide +kernel)⟩

end Passage.Terminal
