import Passage.Config.Basic
import Passage.Toml.Reader

/-!
# Configuration files

The settings that a TOML document gives. What it leaves out keeps its default, and
unknown keys are passed over; a setting of the wrong type is an error. A section may
also be a list of its settings in order.
-/

namespace Passage.Config

open Toml (Item Entries)

/-- The settings of a section, in either form. -/
inductive Section
  | named (entries : Entries)
  | listed (items : List Item)

def section? (doc : Entries) (name : String) : Option Section :=
  match doc.get? name with
  | none => some (.named [])
  | some (.table _ es) => some (.named es)
  | some (.array items) => some (.listed items)
  | some (.tables each) => some (.listed (each.map (.table .header)))
  | some (.date _) => some (.named [])
  | some _ => none

/-- A setting by its name, or by its place in a list. -/
def Section.get? (s : Section) (name : String) (place : Nat) : Option Item :=
  match s with
  | named es => es.get? name
  | listed items => items[place]?

/-- The value of a setting if it is there, which has to be of the right type. -/
def setting? {α : Type} (ofItem : Item → Option α) (default : α) : Option Item → Option α
  | none => some default
  | some v => ofItem v

def text? : Item → Option String
  | .string s => some s
  | _ => none

def number? : Item → Option Nat
  | .integer n => if 0 ≤ n then some n.toNat else none
  | _ => none

def flag? : Item → Option Bool
  | .boolean b => some b
  | _ => none

def ofEntries? (doc : Entries) : Option Config := do
  let base : Config := {}
  let extraction ← section? doc "extraction"
  let search ← section? doc "search"
  let display ← section? doc "display"
  return {
    endpoint := ← setting? text? base.endpoint (extraction.get? "endpoint" 0)
    timeoutSeconds := ← setting? number? base.timeoutSeconds (extraction.get? "timeout_sec" 1)
    pageSize := ← setting? number? base.pageSize (search.get? "page_size" 0)
    caseSensitive := ← setting? flag? base.caseSensitive (search.get? "case_sensitive" 1)
    wholeWord := ← setting? flag? base.wholeWord (search.get? "whole_word" 2)
    maxQueryLength := ← setting? number? base.maxQueryLength (search.get? "max_query_length" 3)
    outlineLimit := ← setting? number? base.outlineLimit (display.get? "outline_limit" 0)
    previewChars := ← setting? number? base.previewChars (display.get? "outline_preview_chars" 1) }

/-- Reads the text of a configuration file. -/
def ofToml (text : String) : Except Error Config :=
  match Toml.read? text.toList with
  | none => .error (.toml "the text is no TOML document")
  | some doc =>
    match ofEntries? doc with
    | some c => .ok c
    | none => .error (.toml "a setting has the wrong type")

end Passage.Config
