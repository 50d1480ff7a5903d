import Passage.Json.Reader

/-!
# Extracted content

The title and the text that an extraction yields. As JSON it is an object with the
keys `title` and `textContent`, or an array of these two values. Either may be
missing or null; other keys are passed over, but a known key comes only once.
-/

namespace Passage

structure Content where
  title : Option String := none
  text : Option String := none
  deriving DecidableEq, Repr

namespace Content

open Json

/-- A text or null; anything else is refused. -/
def textOrNull? : Value → Option (Option String)
  | .null => some none
  | .string (some s) => some (some s)
  | _ => none

/-- The value of a field that comes at most once; `none` if it comes again. -/
def field? (key : String) (fields : List (Option String × Value)) : Option (Option String) :=
  match fields.filter fun f => f.1 = some key with
  | [] => some none
  | [(_, v)] => textOrNull? v
  | _ => none

def ofValue? : Value → Option Content
  | .object fields =>
    if fields.all (·.1.isSome) then
      match field? "title" fields, field? "textContent" fields with
      | some title, some text => some ⟨title, text⟩
      | _, _ => none
    else none
  | .array [] => some {}
  | .array [a] => (textOrNull? a).map fun title => { title }
  | .array [a, b] =>
    match textOrNull? a, textOrNull? b with
    | some title, some text => some ⟨title, text⟩
    | _, _ => none
  | _ => none

/-- Reads content from the bytes of a JSON text. -/
def ofJson? (bytes : List UInt8) : Option Content :=
  (read (Text.Utf8.decode bytes)).bind ofValue?

end Content

end Passage
