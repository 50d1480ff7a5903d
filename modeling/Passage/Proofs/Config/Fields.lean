import Passage.Config.Load
import Passage.Proofs.Numeral
import Passage.Proofs.Text.AsciiCase

/-!
# The settings one by one

A setting is a field of the configuration. It has a place in a document and may have a
variable of the environment, and it is read from either without regard to the others.
-/

namespace Passage.Config

open Text (Spells)
open Toml (Item Entries)

/-- The settings, by the types of their values. -/
inductive Field : Type → Type
  | endpoint : Field String
  | timeoutSeconds : Field Nat
  | pageSize : Field Nat
  | caseSensitive : Field Bool
  | wholeWord : Field Bool
  | maxQueryLength : Field Nat
  | outlineLimit : Field Nat
  | previewChars : Field Nat

/-- Where a document has a setting, also when the section is a list. -/
structure Place where
  part : String
  key : String
  index : Nat

/-- The words for a flag that is on and for one that is off. -/
def flagWords : Bool → List String
  | true => ["1", "true", "yes", "on"]
  | false => ["0", "false", "no", "off"]

/-- A word for the flag, with blanks around it and in any letter case. -/
def Says (s : String) (b : Bool) : Prop := ∃ word ∈ flagWords b, Spells (Text.trim s.toList) word

theorem says_iff {s : String} {b : Bool} :
    Says s b ↔ String.ofList ((Text.trim s.toList).map Char.toLower) ∈ flagWords b := by
  have hsmall : ∀ b, ∀ word ∈ flagWords b, Text.Small word := by decide
  constructor
  · rintro ⟨word, hw, hspells⟩
    rwa [(Text.spells_iff (hsmall b word hw) _).mp hspells]
  · intro hw
    exact ⟨_, hw, (Text.spells_iff (hsmall b _ hw) _).mpr rfl⟩

theorem flagText?_eq_some_iff {s : String} {b : Bool} : flagText? s = some b ↔ Says s b := by
  have hother : ∀ word ∈ flagWords true, word ∉ flagWords false := by decide
  rw [says_iff, flagText?]
  change (if _ ∈ flagWords true then _ else if _ ∈ flagWords false then _ else _) = _ ↔ _
  split
  · next hon =>
    cases b with
    | true => exact iff_of_true rfl hon
    | false => exact iff_of_false nofun (hother _ hon)
  · next hon =>
    cases b with
    | true => exact iff_of_false (by split <;> nofun) hon
    | false =>
      rw [Option.ite_none_right_eq_some]
      exact and_iff_left rfl

namespace Field

variable {α : Type}

def get : Field α → Config → α
  | endpoint, c => c.endpoint
  | timeoutSeconds, c => c.timeoutSeconds
  | pageSize, c => c.pageSize
  | caseSensitive, c => c.caseSensitive
  | wholeWord, c => c.wholeWord
  | maxQueryLength, c => c.maxQueryLength
  | outlineLimit, c => c.outlineLimit
  | previewChars, c => c.previewChars

/-! ## In a document -/

def place : Field α → Place
  | endpoint => ⟨"extraction", "endpoint", 0⟩
  | timeoutSeconds => ⟨"extraction", "timeout_sec", 1⟩
  | pageSize => ⟨"search", "page_size", 0⟩
  | caseSensitive => ⟨"search", "case_sensitive", 1⟩
  | wholeWord => ⟨"search", "whole_word", 2⟩
  | maxQueryLength => ⟨"search", "max_query_length", 3⟩
  | outlineLimit => ⟨"display", "outline_limit", 0⟩
  | previewChars => ⟨"display", "outline_preview_chars", 1⟩

/-- Reads an item that has the type of the setting. -/
def ofItem? : Field α → Item → Option α
  | endpoint => text?
  | timeoutSeconds | pageSize | maxQueryLength | outlineLimit | previewChars => number?
  | caseSensitive | wholeWord => flag?

/-- The value that a document gives to a setting, which is the default if it leaves it out. -/
inductive Given (f : Field α) (doc : Entries) : α → Prop
  | given {s : Section} {item : Item} {value : α} (part : section? doc f.place.part = some s)
      (found : s.get? f.place.key f.place.index = some item) (typed : f.ofItem? item = some value) :
      Given f doc value
  | default {s : Section} (part : section? doc f.place.part = some s)
      (absent : s.get? f.place.key f.place.index = none) : Given f doc (f.get {})

theorem given_iff {f : Field α} {doc : Entries} {value : α} : f.Given doc value ↔
    ∃ s, section? doc f.place.part = some s ∧
      setting? f.ofItem? (f.get {}) (s.get? f.place.key f.place.index) = some value := by
  constructor
  · rintro (⟨hpart, hfound, htyped⟩ | ⟨hpart, habsent⟩)
    · exact ⟨_, hpart, by rwa [hfound]⟩
    · exact ⟨_, hpart, by rw [habsent]; rfl⟩
  · rintro ⟨s, hpart, h⟩
    cases hitem : s.get? f.place.key f.place.index with
    | none =>
      rw [hitem] at h
      cases h
      exact .default hpart hitem
    | some item =>
      rw [hitem] at h
      exact .given hpart hitem h

/-! ## In the environment -/

/-- The variable that comes before the file, if the setting has one. -/
def variableName? : Field α → Option String
  | endpoint => some "DOCSIFT_ENDPOINT"
  | timeoutSeconds => some "DOCSIFT_TIMEOUT_SEC"
  | pageSize => some "DOCSIFT_PAGE_SIZE"
  | caseSensitive => some "DOCSIFT_CASE_SENSITIVE"
  | wholeWord => some "DOCSIFT_WHOLE_WORD"
  | maxQueryLength => some "DOCSIFT_MAX_QUERY_LENGTH"
  | outlineLimit | previewChars => none

/-- What the text of a variable means. A text without meaning is malformed. -/
def Means : Field α → String → α → Prop
  | endpoint, s, value => s = value
  | timeoutSeconds, s, n | pageSize, s, n | maxQueryLength, s, n
  | outlineLimit, s, n | previewChars, s, n => Numeral.Typed s.toList n
  | caseSensitive, s, b | wholeWord, s, b => Says s b

/-- The environment has a value for the setting. -/
def Takes (f : Field α) (env : Environment) (value : α) : Prop :=
  ∃ name s, f.variableName? = some name ∧ env.get? name = some s ∧ f.Means s value

def read? : Field α → String → Option α
  | endpoint => some
  | timeoutSeconds | pageSize | maxQueryLength | outlineLimit | previewChars => numberText?
  | caseSensitive | wholeWord => flagText?

/-- The value that the environment has for the setting. -/
def taken? (f : Field α) (env : Environment) : Option α :=
  (f.variableName?.bind env.get?).bind f.read?

theorem read?_eq_some_iff {f : Field α} {s : String} {value : α} :
    f.read? s = some value ↔ f.Means s value := by
  cases f with
  | endpoint => exact Option.some_inj
  | timeoutSeconds | pageSize | maxQueryLength | outlineLimit | previewChars =>
    exact Numeral.read?_eq_some_iff
  | caseSensitive | wholeWord =>
    rw [read?]
    exact flagText?_eq_some_iff

theorem taken?_eq_some_iff {f : Field α} {env : Environment} {value : α} :
    f.taken? env = some value ↔ f.Takes env value := by
  rw [taken?, Option.bind_eq_some_iff]
  simp only [Option.bind_eq_some_iff, read?_eq_some_iff, Takes]
  constructor
  · rintro ⟨s, ⟨name, hname, hs⟩, hmeans⟩
    exact ⟨name, s, hname, hs, hmeans⟩
  · rintro ⟨name, s, hname, hs, hmeans⟩
    exact ⟨s, ⟨name, hname, hs⟩, hmeans⟩

theorem get_withEnvironment (f : Field α) (env : Environment) (base : Config) :
    f.get (withEnvironment env base) = (f.taken? env).getD (f.get base) := by
  cases f <;> rfl

end Field

/-! ## All of them -/

/-- The configuration with these values. -/
def ofValues (value : (α : Type) → Field α → α) : Config where
  endpoint := value _ .endpoint
  timeoutSeconds := value _ .timeoutSeconds
  pageSize := value _ .pageSize
  caseSensitive := value _ .caseSensitive
  wholeWord := value _ .wholeWord
  maxQueryLength := value _ .maxQueryLength
  outlineLimit := value _ .outlineLimit
  previewChars := value _ .previewChars

theorem Field.get_ofValues {α : Type} (f : Field α) (value : (α : Type) → Field α → α) :
    f.get (ofValues value) = value α f := by
  cases f <;> rfl

theorem eq_of_get {c d : Config} (h : ∀ (α : Type) (f : Field α), f.get c = f.get d) : c = d := by
  have hc : ∀ c : Config, c = ofValues fun _ f => f.get c := fun _ => rfl
  rw [hc c, hc d]
  congr
  funext α f
  exact h α f

/-- A configuration file is read setting by setting. -/
theorem ofEntries?_eq_some_iff {doc : Entries} {c : Config} :
    ofEntries? doc = some c ↔ ∀ (α : Type) (f : Field α), f.Given doc (f.get c) := by
  constructor
  · intro h α f
    simp only [ofEntries?, Option.bind_eq_bind, Option.bind_eq_some_iff, Option.pure_def,
      Option.some.injEq] at h
    obtain ⟨extraction, he, search, hs, display, hd, _, h₁, _, h₂, _, h₃, _, h₄, _, h₅, _, h₆,
      _, h₇, _, h₈, rfl⟩ := h
    rw [Field.given_iff]
    cases f with
    | endpoint => exact ⟨extraction, he, h₁⟩
    | timeoutSeconds => exact ⟨extraction, he, h₂⟩
    | pageSize => exact ⟨search, hs, h₃⟩
    | caseSensitive => exact ⟨search, hs, h₄⟩
    | wholeWord => exact ⟨search, hs, h₅⟩
    | maxQueryLength => exact ⟨search, hs, h₆⟩
    | outlineLimit => exact ⟨display, hd, h₇⟩
    | previewChars => exact ⟨display, hd, h₈⟩
  · intro h
    have hget : ∀ (α : Type) (f : Field α) (s : Section), section? doc f.place.part = some s →
        setting? f.ofItem? (f.get {}) (s.get? f.place.key f.place.index) = some (f.get c) := by
      intro α f s hs
      obtain ⟨s', hs', hget⟩ := Field.given_iff.mp (h α f)
      rwa [Option.some.inj (hs.symm.trans hs')]
    obtain ⟨extraction, he, h₁⟩ := Field.given_iff.mp (h _ .endpoint)
    obtain ⟨search, hs, h₃⟩ := Field.given_iff.mp (h _ .pageSize)
    obtain ⟨display, hd, h₇⟩ := Field.given_iff.mp (h _ .outlineLimit)
    have h₂ := hget _ .timeoutSeconds extraction he
    have h₄ := hget _ .caseSensitive search hs
    have h₅ := hget _ .wholeWord search hs
    have h₆ := hget _ .maxQueryLength search hs
    have h₈ := hget _ .previewChars display hd
    simp only [Field.place, Field.ofItem?, Field.get] at he hs hd h₁ h₂ h₃ h₄ h₅ h₆ h₇ h₈
    simp only [ofEntries?, he, hs, hd, h₁, h₂, h₃, h₄, h₅, h₆, h₇, h₈, Option.bind_eq_bind,
      Option.bind_some, Option.pure_def]

end Passage.Config
