import Mathlib.Algebra.GroupWithZero.Nat
import Passage.CommandLine.Run
import Passage.Proofs.Config.Layers
import Passage.Proofs.Text.Utf8
import Passage.Proofs.Toml.Tables

/-!
# The shown configuration

What is shown of a configuration is a configuration file: a comment that names the file in
force, and a document with a setting for each field. Reading it gives the configuration
again, whatever text the endpoint is.
-/

namespace Passage.Config

open CommandLine (Surroundings showConfig)
open Text.Utf8 (encode)

/-- The numbers of a configuration. -/
def numbers (c : Config) : List Nat :=
  [c.timeoutSeconds, c.pageSize, c.maxQueryLength, c.outlineLimit, c.previewChars]

/-- The names in a shown configuration, which no setting has a say in. -/
theorem names_sections (c : Config) : c.sections.map (fun s => (s.1, s.2.map Prod.fst)) =
    [("extraction", ["endpoint", "timeout_sec"]),
      ("search", ["page_size", "case_sensitive", "whole_word", "max_query_length"]),
      ("display", ["outline_limit", "outline_preview_chars"])] :=
  rfl

theorem plain_sections (c : Config) : Toml.Sections.Plain c.sections := by
  have hplain : ∀ names ∈ c.sections.map (fun s => (s.1, s.2.map Prod.fst)),
      Toml.Bare names.1 ∧ (∀ k ∈ names.2, Toml.Bare k) ∧ names.2.Nodup := by
    rw [names_sections]
    decide +kernel
  have hall := fun s hs => hplain _ (List.mem_map_of_mem (a := s) hs)
  refine ⟨fun s hs => (hall s hs).1, fun s hs => (hall s hs).2.1, ?_,
    fun s hs => (hall s hs).2.2⟩
  change ["extraction", "search", "display"].Nodup
  decide

/-- A configuration has a written form if its numbers have one. -/
theorem exists_document {c : Config} (h : ∀ n ∈ c.numbers, n ≤ 2 ^ 63 - 1) :
    ∃ text, Toml.document? c.sections = some text := by
  have hbound : ∀ n ∈ c.numbers, n < Toml.integerBound := fun n hn =>
    Nat.lt_of_le_of_lt (h n hn) (by decide)
  simp only [numbers, List.forall_mem_cons] at hbound
  simp [Toml.document?, sections, Toml.section?, Toml.settingLine?, Toml.Setting.text?, hbound]

/-- The tables that are written for a configuration give each setting its value. -/
theorem ofEntries?_tables (c : Config) :
    ofEntries? (Toml.Sections.tables c.sections) = some c := by
  rw [ofEntries?_eq_some_iff]
  intro α f
  cases f
  all_goals exact .given rfl rfl rfl

/-- What is shown is a comment line and the document. -/
theorem showConfig_eq {w : Surroundings} {c : Config}
    (hpath : ∀ path, file? w.environment w.disk = some path →
      ∀ ch ∈ path.toList, Toml.isControl ch = false)
    {text : List Char} (htext : Toml.document? c.sections = some text) :
    ∃ comment, (∀ ch ∈ comment, Toml.isControl ch = false) ∧
      showConfig w c .human = { output := String.ofList ('#' :: (comment ++ '\n' :: text)) } := by
  have htoml : c.toml? = some (String.ofList text) := by rw [toml?, htext, Option.map_some]
  have hwhole : ∀ (heading : String) (comment : List Char),
      heading.toList = '#' :: (comment ++ ['\n']) →
        heading ++ String.ofList text = String.ofList ('#' :: (comment ++ '\n' :: text)) := by
    intro heading comment h
    rw [← String.toList_inj, String.toList_append, h, String.toList_ofList, String.toList_ofList]
    simp
  cases hfile : file? w.environment w.disk with
  | none =>
    refine ⟨" no config file found, using defaults".toList, by decide +kernel, ?_⟩
    have hheading : "# no config file found, using defaults\n".toList =
        '#' :: (" no config file found, using defaults".toList ++ ['\n']) := by decide +kernel
    rw [showConfig, htoml, hfile, ← hwhole _ _ hheading]
  | some path =>
    refine ⟨" config_file: ".toList ++ path.toList, ?_, ?_⟩
    · intro ch hch
      have hlabel : ∀ ch ∈ " config_file: ".toList, Toml.isControl ch = false := by decide +kernel
      exact (List.mem_append.mp hch).elim (hlabel ch) (hpath path hfile ch)
    · rw [showConfig, htoml, hfile, ← hwhole ("# config_file: " ++ path ++ "\n")]
      rw [String.toList_append, String.toList_append]
      rfl

/-- A configuration that has a written form is shown without a fault, and the text is that of a
configuration file that gives each setting as it is. It does not have to be valid. -/
theorem shown_reads_back (w : Surroundings) (c : Config)
    (hnumbers : ∀ n ∈ c.numbers, n ≤ 2 ^ 63 - 1)
    (hpath : ∀ path, file? w.environment w.disk = some path →
      ∀ ch ∈ path.toList, Toml.isControl ch = false) :
    let shown := showConfig w c .human
    shown.exitCode = 0 ∧ shown.errors = "" ∧ ofToml shown.output = .ok c ∧
      ∀ (disk : Files.Disk) (place : String),
        disk.read place = .ok (encode shown.output.toList) → ofFile disk place = .ok c := by
  obtain ⟨text, htext⟩ := exists_document hnumbers
  obtain ⟨comment, hcomment, hshown⟩ := showConfig_eq hpath htext
  have hread := Toml.read?_document (plain_sections c) htext hcomment
  have hback : ofToml (showConfig w c .human).output = .ok c := by
    rw [hshown, ofToml_eq_ok_iff]
    exact ⟨_, by rw [String.toList_ofList, hread], ofEntries?_tables c⟩
  refine ⟨by rw [hshown], by rw [hshown], hback, fun disk place hdisk => ?_⟩
  have hfile : disk.text place = .ok (showConfig w c .human).output := by
    rw [Files.Disk.text, hdisk]
    simp only [Text.Utf8.text?_encode, String.ofList_toList]
  rw [ofFile, hfile]
  exact hback

/-- An endpoint with every kind of character that has to be escaped, in a configuration that is
not valid; the file in force has quotes in its name. -/
theorem shown_reads_back_quotes :
    let w : Surroundings := {
      environment :=
        ⟨fun name => if name = "DOCSIFT_CONFIG" then some "my \"own\".toml" else none, none⟩
      disk := Files.Disk.ofReadings []
      service := Extraction.unreachable
      input := []
      colors := false
      loadedAt := ""
      elapsed := "" }
    let c : Config := {
      endpoint := "C:\\\"\"\"'''\n\r\t\x01\x7fé𝄞\""
      timeoutSeconds := 0
      pageSize := 2 ^ 63 - 1 }
    let shown := showConfig w c .human
    let disk := Files.Disk.ofReadings [("shown.toml", .ok (encode shown.output.toList))]
    file? w.environment w.disk = some "my \"own\".toml" ∧
      (∀ n ∈ c.numbers, n ≤ 2 ^ 63 - 1) ∧ shown.exitCode = 0 ∧
      ofToml shown.output = .ok c ∧ ofFile disk "shown.toml" = .ok c := by
  intro w c shown disk
  have hfile : file? w.environment w.disk = some "my \"own\".toml" := rfl
  have hnumbers : ∀ n ∈ c.numbers, n ≤ 2 ^ 63 - 1 := by decide
  have hpath : ∀ path, file? w.environment w.disk = some path →
      ∀ ch ∈ path.toList, Toml.isControl ch = false := by
    intro path h
    obtain rfl := Option.some.inj (hfile.symm.trans h)
    decide +kernel
  obtain ⟨hexit, -, hback, hread⟩ := shown_reads_back w c hnumbers hpath
  exact ⟨hfile, hnumbers, hexit, hback, hread disk "shown.toml" rfl⟩

end Passage.Config
