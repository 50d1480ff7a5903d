import Passage.Match.Mark
import Passage.Terminal.Style

/-!
# Highlights

Marked text is shown with the marked parts in colour and without the markers.
Nested marks are one highlight, a closing marker with no open one is text, and a
highlight never runs over the end of a line.
-/

namespace Passage.Terminal

open Match (markOpen markClose)

/-- What follows `front` in a text that begins with it. -/
def stripFront? (front s : List Char) : Option (List Char) :=
  if s.take front.length = front then some (s.drop front.length) else none

theorem length_lt_of_stripFront? {front s rest : List Char} (hf : front ≠ [])
    (h : stripFront? front s = some rest) : rest.length < s.length := by
  unfold stripFront? at h
  split at h
  · rename_i ht
    have hl := congrArg List.length ht
    have hp := List.length_pos_iff.mpr hf
    simp only [Option.some.injEq] at h
    simp only [List.length_take] at hl
    rw [← h, List.length_drop]
    omega
  · cases h

/-- A character that ends a stretch of text. -/
def isStop (c : Char) : Bool := c = '<' || c = '\n'

/-- Shows marked text, `depth` marks being open. -/
def showFrom (colors : Bool) (depth : Nat) (s : List Char) : List Char :=
  match _h : s with
  | [] => []
  | c :: rest =>
    match _o : stripFront? markOpen s with
    | some after => showFrom colors (depth + 1) after
    | none =>
      match _c : (if depth = 0 then none else stripFront? markClose s) with
      | some after => showFrom colors (depth - 1) after
      | none =>
        if c = '\n' then c :: showFrom colors depth rest
        else
          let stretch := c :: rest.takeWhile (!isStop ·)
          (if depth = 0 then stretch else Style.highlight.paint colors stretch) ++
            showFrom colors depth (rest.dropWhile (!isStop ·))
termination_by s.length
decreasing_by
  · have := length_lt_of_stripFront? (by decide) _o
    subst _h; exact this
  · subst _h
    split at _c
    · cases _c
    · exact length_lt_of_stripFront? (by decide) _c
  · simp
  · have := (List.dropWhile_sublist (fun x => !isStop x) (l := rest)).length_le
    simp only [List.length_cons]
    omega

/-- Shows marked text. -/
def showMarked (colors : Bool) (text : String) : String :=
  String.ofList (showFrom colors 0 text.toList)

end Passage.Terminal
