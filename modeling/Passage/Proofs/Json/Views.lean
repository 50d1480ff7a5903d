import Passage.Json.Views
import Passage.Proofs.Json.Reading

/-!
# Views read from JSON

A reader finds a view in its JSON form by the names of the fields, also among fields with
other names, and an outline by their order. The line of each is read back, whatever texts it
shows.
-/

namespace Passage

open Json (Value Legible)

/-! ## Readers -/

namespace Json.Value

def field? (v : Value) (key : String) : Option Value :=
  match v with
  | object fields => fields.lookup (some key)
  | _ => none

def text? : Value → Option String
  | string s => s
  | _ => none

def count? : Value → Option Nat
  | number digits => if digits.all Char.isDigit then some (Numeral.value digits) else none
  | _ => none

def flag? : Value → Option Bool
  | bool b => some b
  | _ => none

/-- The items of an array, if each of them can be read. -/
def list? {α : Type} (read : Value → Option α) : Value → Option (List α)
  | array items => items.mapM read
  | _ => none

theorem field?_nil (key : String) : (record []).field? key = none :=
  rfl

theorem field?_cons (name : String) (v : Value) (fields : List (String × Value)) (key : String) :
    (record ((name, v) :: fields)).field? key =
      if key = name then some v else (record fields).field? key := by
  by_cases h : key = name
  · subst h
    rw [if_pos rfl]
    exact List.lookup_cons_self
  · have hne : (some key == some name) = false := by simpa using h
    rw [if_neg h, record, field?, List.map_cons, List.lookup_cons, hne]
    rfl

/-- Fields with other names do not stand in the way. -/
theorem field?_append {more : List (String × Value)} {key : String}
    (h : key ∉ more.map Prod.fst) (fields : List (String × Value)) :
    (record (more ++ fields)).field? key = (record fields).field? key := by
  induction more with
  | nil => rfl
  | cons f more ih =>
    rw [List.map_cons, List.mem_cons, not_or] at h
    rw [List.cons_append, field?_cons, if_neg h.1, ih h.2]

theorem text?_text (s : String) : (text s).text? = some s :=
  rfl

theorem count?_nat (n : Nat) : (nat n).count? = some n := by
  have hdigits : (Numeral.decimal n).all Char.isDigit :=
    List.all_eq_true.mpr fun _ hc => Numeral.isDigit_of_mem_decimal hc
  have hvalue := Numeral.value_decimal n
  rw [nat, ← Numeral.decimal, count?, if_pos hdigits, hvalue]

theorem flag?_bool (b : Bool) : (bool b).flag? = some b :=
  rfl

theorem list?_array {α : Type} {read : Value → Option α} {write : α → Value}
    (h : ∀ a, read (write a) = some a) (as : List α) :
    (array (as.map write)).list? read = some as := by
  rw [list?]
  induction as with
  | nil => rfl
  | cons a as ih =>
    rw [List.map_cons, List.mapM_cons, h, ih]
    rfl

end Json.Value

open Json.Value

def ResultView.ofJson? (v : Value) : Option ResultView := do
  return {
    number := ← (v.field? "paragraph_number").bind count?
    locator := ← (v.field? "locator").bind text?
    annotated := ← (v.field? "annotated_text").bind text?
    source := ← (v.field? "source").bind text? }

def PagerView.ofJson? (v : Value) : Option PagerView := do
  return {
    index := ← (v.field? "page_index").bind count?
    count := ← (v.field? "page_count").bind count?
    hasPrev := ← (v.field? "has_prev").bind flag?
    hasNext := ← (v.field? "has_next").bind flag?
    label := ← (v.field? "label").bind text? }

/-- The pager is the only part of a view that may be missing. -/
def View.ofJson? (v : Value) : Option View := do
  return {
    status := ← (v.field? "status").bind text?
    total := ← (v.field? "total_results").bind count?
    results := ← (v.field? "results").bind (list? ResultView.ofJson?)
    pager := ← match v.field? "pager" with
      | some p => (PagerView.ofJson? p).map some
      | none => some none }

def OutlineEntry.ofJson? (v : Value) : Option OutlineEntry := do
  return {
    index := ← (v.field? "index").bind count?
    preview := ← (v.field? "preview").bind text? }

/-! ## What is read is what was written -/

theorem ResultView.ofJson?_toJson (r : ResultView) : ofJson? r.toJson = some r := by
  simp [ofJson?, toJson, field?_cons, count?_nat, text?_text]

theorem PagerView.ofJson?_toJson (p : PagerView) : ofJson? p.toJson = some p := by
  simp [ofJson?, toJson, field?_cons, count?_nat, text?_text, flag?_bool]

theorem OutlineEntry.ofJson?_toJson (e : OutlineEntry) : ofJson? e.toJson = some e := by
  simp [ofJson?, toJson, field?_cons, count?_nat, text?_text]

theorem View.field?_pager (v : View) :
    v.toJson.field? "pager" = v.pager.map PagerView.toJson := by
  cases h : v.pager <;> simp [toJson, fields, h, field?_cons, field?_nil]

theorem View.ofJson?_toJson (v : View) : ofJson? v.toJson = some v := by
  have hresults := list?_array ResultView.ofJson?_toJson v.results
  obtain ⟨status, total, results, pager⟩ := v
  cases pager with
  | none =>
    simp [ofJson?, toJson, fields, field?_cons, field?_nil, count?_nat, text?_text, hresults]
  | some p =>
    simp [ofJson?, toJson, fields, field?_cons, count?_nat, text?_text, hresults,
      PagerView.ofJson?_toJson]

/-- The names that a view is read by. -/
def View.keys : List String := ["status", "total_results", "results", "pager"]

/-- A view is found among fields with other names. -/
theorem View.ofJson?_append {more : List (String × Value)}
    (h : ∀ key ∈ keys, key ∉ more.map Prod.fst) (v : View) :
    ofJson? (.record (more ++ v.fields)) = some v := by
  have hfield : ∀ key ∈ keys, (record (more ++ v.fields)).field? key = v.toJson.field? key :=
    fun key hkey => field?_append (h key hkey) v.fields
  rw [← v.ofJson?_toJson, ofJson?, ofJson?, hfield "status" (by decide),
    hfield "total_results" (by decide), hfield "results" (by decide), hfield "pager" (by decide)]

theorem outline_toJson (outline : List OutlineEntry) :
    (outlineJson outline).list? OutlineEntry.ofJson? = some outline :=
  list?_array OutlineEntry.ofJson?_toJson outline

/-! ## Their lines -/

open Json (legible_text legible_nat legible_bool legible_array legible_record)

/-- What is written for each of a list of things is legible if it is for one of them. -/
theorem Json.legible_list {α : Type} {write : α → Value} (h : ∀ a, Legible (write a))
    (as : List α) : Legible (.array (as.map write)) := by
  apply legible_array
  intro v hv
  obtain ⟨a, _, rfl⟩ := List.mem_map.mp hv
  exact h a

theorem ResultView.legible_toJson (r : ResultView) : Legible r.toJson := by
  apply legible_record
  simp [legible_nat, legible_text]

theorem PagerView.legible_toJson (p : PagerView) : Legible p.toJson := by
  apply legible_record
  simp [legible_nat, legible_bool, legible_text]

theorem View.legible_fields (v : View) : ∀ f ∈ v.fields, Legible f.2 := by
  have hresults := Json.legible_list ResultView.legible_toJson v.results
  cases h : v.pager with
  | none => simp [fields, h, legible_nat, legible_text, hresults]
  | some p => simp [fields, h, legible_nat, legible_text, hresults, p.legible_toJson]

theorem View.legible_toJson (v : View) : Legible v.toJson :=
  legible_record v.legible_fields

theorem OutlineEntry.legible_toJson (e : OutlineEntry) : Legible e.toJson := by
  apply legible_record
  simp [legible_nat, legible_text]

theorem legible_outlineJson (outline : List OutlineEntry) : Legible (outlineJson outline) :=
  Json.legible_list OutlineEntry.legible_toJson outline

end Passage
