import Passage.Session
import Passage.Terminal.Highlight
import Passage.Text.Lines

/-!
# Views on a terminal

A session view as lines of text: the status, the results of the page with their
paragraphs indented, and the pager. An outline has one line for each paragraph.
-/

namespace Passage.Terminal

open Text

def resultLines (colors : Bool) (r : ResultView) : String :=
  let shown := lines (showMarked colors r.annotated).toList
  "[" ++ Style.locator.show colors r.locator ++ "] " ++ Style.source.show colors r.source ++ "\n" ++
    String.join (shown.map fun l => "    " ++ String.ofList l ++ "\n") ++ "\n"

/-- The pager's last line; a direction that leads nowhere is dimmed. -/
def pagerLine (colors : Bool) (p : PagerView) : String :=
  let button (on : Bool) (text : String) := (if on then Style.label else Style.dim).show colors text
  Style.number.show colors p.label ++ "  " ++ button p.hasPrev "‹ prev" ++ " | " ++
    button p.hasNext "next ›" ++ "\n"

def viewText (colors : Bool) (v : View) : String :=
  Style.label.show colors v.status ++ "\n" ++
    match v.pager with
    | none => ""
    | some p => "\n" ++ String.join (v.results.map (resultLines colors)) ++ pagerLine colors p

/-- The text with blanks in front, at least `width` characters long. -/
def padLeft (width : Nat) (text : String) : String :=
  String.ofList (List.replicate (width - text.length) ' ') ++ text

def outlineLine (colors : Bool) (e : OutlineEntry) : String :=
  Style.dim.show colors (padLeft 5 (toString (e.index + 1))) ++ "  " ++
    String.ofList (e.preview.toList.map fun c => if c = '\n' then ' ' else c) ++ "\n"

def outlineText (colors : Bool) (outline : List OutlineEntry) : String :=
  String.join (outline.map (outlineLine colors))

end Passage.Terminal
