import Passage.Error
import Passage.Json.Value
import Passage.Match.Pattern
import Passage.Toml.Printer
import Passage.Url.Basic

/-!
# Configuration

The settings of the program, the conditions under which it runs with them, and their
written forms. In writing the settings stand in three sections.
-/

namespace Passage

structure Config where
  /-- Where the extraction service answers. -/
  endpoint : String := "http://127.0.0.1:3000/api/extract"
  timeoutSeconds : Nat := 30
  pageSize : Nat := 12
  caseSensitive : Bool := false
  wholeWord : Bool := false
  /-- Characters a query may have. -/
  maxQueryLength : Nat := 500
  /-- Paragraphs that an outline lists. -/
  outlineLimit : Nat := 200
  /-- Characters of a paragraph that an outline shows. -/
  previewChars : Nat := 140
  deriving DecidableEq, Repr

namespace Config

def options (c : Config) : Match.Options := ⟨c.caseSensitive, c.wholeWord⟩

/-- Checks the settings one after another and stops at the first that will not do. -/
def validate (c : Config) : Except Error Unit := do
  match Url.parse c.endpoint.toList with
  | .error e =>
    throw (.configuration ("Invalid extraction endpoint '" ++ c.endpoint ++ "': " ++ e.message))
  | .ok url =>
    if !url.isWeb then
      throw (.configuration ("Extraction endpoint must be http or https, got '" ++
        String.ofList url.scheme ++ "'"))
  if c.timeoutSeconds = 0 then throw (.configuration "Request timeout must be non-zero")
  if c.pageSize = 0 then throw (.configuration "Page size must be non-zero")
  if c.maxQueryLength = 0 then throw (.configuration "Max query length must be non-zero")
  if c.previewChars = 0 then throw (.configuration "Outline preview length must be non-zero")

/-! ## Written forms -/

def sections (c : Config) : List (String × List (String × Toml.Setting)) := [
  ("extraction", [("endpoint", .text c.endpoint), ("timeout_sec", .number c.timeoutSeconds)]),
  ("search", [("page_size", .number c.pageSize), ("case_sensitive", .flag c.caseSensitive),
    ("whole_word", .flag c.wholeWord), ("max_query_length", .number c.maxQueryLength)]),
  ("display", [("outline_limit", .number c.outlineLimit),
    ("outline_preview_chars", .number c.previewChars)])]

/-- The settings as a TOML document, if their numbers fit one. -/
def toml? (c : Config) : Option String := (Toml.document? c.sections).map String.ofList

def settingJson : Toml.Setting → Json.Value
  | .text s => .text s
  | .number n => .nat n
  | .flag b => .bool b

def jsonFields (c : Config) : List (String × Json.Value) :=
  c.sections.map fun (name, settings) =>
    (name, .record (settings.map fun (k, v) => (k, settingJson v)))

end Config

end Passage
