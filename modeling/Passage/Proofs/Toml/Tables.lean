import Passage.Proofs.Toml.Lines

/-!
# Documents read back

The statements of a document fill its tables in order: a header opens a new table at the
end, and a setting goes to the end of the table that is open. So a document that is written
from sections is read as a table for each of them with an item for each of its settings.
-/

namespace Passage.Toml

/-! ## Entries -/

namespace Entries

variable {key : String} {es : Entries}

theorem alter_of_absent (h : key ∉ es.map Prod.fst) (f : Option Item → Option Item) :
    alter key f es = (f none).map fun v => es ++ [(key, v)] := by
  induction es with
  | nil => rfl
  | cons e es ih =>
    rw [List.map_cons, List.mem_cons, not_or] at h
    rw [alter, if_neg fun he => h.1 he.symm, ih h.2, Option.map_map]
    rfl

theorem alter_of_last (h : key ∉ es.map Prod.fst) (f : Option Item → Option Item) (v : Item) :
    alter key f (es ++ [(key, v)]) = (f (some v)).map fun w => es ++ [(key, w)] := by
  induction es with
  | nil => simp [alter]
  | cons e es ih =>
    rw [List.map_cons, List.mem_cons, not_or] at h
    rw [List.cons_append, alter, if_neg fun he => h.1 he.symm, ih h.2, Option.map_map]
    rfl

end Entries

/-! ## Statements -/

theorem apply_table {name : String} {es : Entries} (h : name ∉ es.map Prod.fst)
    (header : List String) : Filling.apply ⟨es, header⟩ (.table [name]) =
      some ⟨es ++ [(name, .table .header [])], [name]⟩ := by
  have hopen : atParent Entries.openTable [name] es = Entries.openTable name es := rfl
  rw [Filling.apply, hopen, Entries.openTable, Entries.alter_of_absent h]
  rfl

theorem apply_pair {name key : String} {es inner : Entries} (hname : name ∉ es.map Prod.fst)
    (hkey : key ∉ inner.map Prod.fst) (v : Item) :
    Filling.apply ⟨es ++ [(name, .table .header inner)], [name]⟩ (.pair [key] v) =
      some ⟨es ++ [(name, .table .header (inner ++ [(key, v)]))], [name]⟩ := by
  have hassign : Entries.assign [key] v .header inner = some (inner ++ [(key, v)]) := by
    have hdefine : Entries.assign [key] v .header inner = Entries.define key v inner := rfl
    rw [hdefine, Entries.define, Entries.alter_of_absent hkey]
    rfl
  simp only [Filling.apply, Entries.within, Entries.alter_of_last hname]
  simp [hassign]

/-- The items of settings, under their keys. -/
def items (settings : List (String × Setting)) : Entries := settings.map fun s => (s.1, s.2.item)

/-- The tables that sections are read as. -/
def Sections.tables (ss : Sections) : Entries :=
  ss.map fun s => (s.1, .table .header (items s.2))

theorem foldlM_pairs {name : String} {es : Entries} (inner : Entries)
    (hname : name ∉ es.map Prod.fst) {settings : List (String × Setting)}
    (h : (inner.map Prod.fst ++ settings.map Prod.fst).Nodup) :
    (settings.map fun s => Statement.pair [s.1] s.2.item).foldlM Filling.apply
        ⟨es ++ [(name, .table .header inner)], [name]⟩ =
      some ⟨es ++ [(name, .table .header (inner ++ items settings))], [name]⟩ := by
  induction settings generalizing inner with
  | nil => simp [items]
  | cons s settings ih =>
    rw [List.map_cons, List.append_cons] at h
    have hkey : s.1 ∉ inner.map Prod.fst := by
      intro hmem
      exact (List.nodup_append.mp (List.nodup_append.mp h).1).2.2 _ hmem _ List.mem_cons_self rfl
    rw [List.map_cons, List.foldlM_cons, apply_pair hname hkey]
    simpa [items] using ih (inner ++ [(s.1, s.2.item)]) (by simpa using h)

theorem foldlM_sections (es : Entries) (header : List String) {ss : Sections}
    (hnames : (es.map Prod.fst ++ ss.map Prod.fst).Nodup)
    (hkeys : ∀ s ∈ ss, (s.2.map Prod.fst).Nodup) :
    ((ss.flatMap fun s => sectionStatements s.1 s.2).foldlM Filling.apply ⟨es, header⟩).map
      Filling.entries = some (es ++ ss.tables) := by
  induction ss generalizing es header with
  | nil => simp [Sections.tables]
  | cons s ss ih =>
    obtain ⟨hkey, hkeys⟩ := List.forall_mem_cons.mp hkeys
    rw [List.map_cons, List.append_cons] at hnames
    have hname : s.1 ∉ es.map Prod.fst := by
      intro hmem
      exact (List.nodup_append.mp (List.nodup_append.mp hnames).1).2.2 _ hmem _
        List.mem_cons_self rfl
    have hsettings := foldlM_pairs [] hname (by simpa using hkey)
    have hmore := ih (es ++ [(s.1, .table .header (items s.2))]) [s.1]
      (by simpa using hnames) hkeys
    rw [List.append_assoc, List.singleton_append] at hmore
    rw [List.flatMap_cons, List.foldlM_append, sectionStatements, List.foldlM_cons,
      apply_table hname]
    simp only [Option.bind_eq_bind, Option.bind_some, hsettings, List.nil_append]
    exact hmore

/-- A document under a comment line is read as the tables that it was written from. -/
theorem read?_document {ss : Sections} (h : ss.Plain) {text : List Char}
    (htext : document? ss = some text) {comment : List Char}
    (hcomment : ∀ c ∈ comment, isControl c = false) :
    read? ('#' :: (comment ++ '\n' :: text)) = some ss.tables := by
  have hbody : '#' :: (comment ++ '\n' :: text) = '#' :: (comment ++ ['\n']) ++ text := by simp
  have hfill := foldlM_sections [] [] (by simpa using h.names_nodup) h.keys_nodup
  have hstatements := statements?_document h.names h.keys htext (filler_comment hcomment)
  rw [← hbody] at hstatements
  simpa [read?, hstatements, ofStatements] using hfill

end Passage.Toml
