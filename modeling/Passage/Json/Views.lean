import Passage.Json.Value
import Passage.Session

/-!
# Views as JSON

The JSON form of session views and outlines. A view without results has no pager.
-/

namespace Passage

open Json (Value)

def ResultView.toJson (r : ResultView) : Value :=
  .record [("paragraph_number", .nat r.number), ("locator", .text r.locator),
    ("annotated_text", .text r.annotated), ("source", .text r.source)]

def PagerView.toJson (p : PagerView) : Value :=
  .record [("page_index", .nat p.index), ("page_count", .nat p.count),
    ("has_prev", .bool p.hasPrev), ("has_next", .bool p.hasNext), ("label", .text p.label)]

def View.fields (v : View) : List (String × Value) :=
  [("status", .text v.status), ("total_results", .nat v.total),
    ("results", .array (v.results.map ResultView.toJson))] ++
  match v.pager with
  | some p => [("pager", p.toJson)]
  | none => []

def View.toJson (v : View) : Value := .record v.fields

def OutlineEntry.toJson (e : OutlineEntry) : Value :=
  .record [("index", .nat e.index), ("preview", .text e.preview)]

def outlineJson (outline : List OutlineEntry) : Value := .array (outline.map OutlineEntry.toJson)

end Passage
