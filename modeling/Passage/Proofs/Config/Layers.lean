import Mathlib.Tactic.Choose
import Passage.Proofs.Config.Fields
import Passage.Proofs.Config.Validity

/-!
# The layers of the configuration

The environment stands above the configuration file and the file above the defaults,
setting by setting. What results is checked as a whole, so the environment can put a bad
file right and spoil a good one.
-/

namespace Passage

namespace Environment

/-- The environment in which a variable is not set. -/
def without (env : Environment) (name : String) : Environment :=
  { env with get? := fun other => if other = name then none else env.get? other }

/-- The two environments differ in the variables of settings at most. -/
structure SameBelow (env other : Environment) : Prop where
  get?_eq : ∀ name, (∀ (α : Type) (f : Config.Field α), f.variableName? ≠ some name) →
    env.get? name = other.get? name
  home_eq : env.accountHome = other.accountHome

end Environment

namespace Config

open Files (Disk Fault)
open Toml (Entries)

/-! ## The file -/

/-- The document of the configuration file. Where there is no file, it is empty. -/
inductive Selected (env : Environment) (disk : Disk) : Entries → Prop
  | absent (file : file? env disk = none) : Selected env disk []
  | present {path text : String} {doc : Entries} (file : file? env disk = some path)
      (read : disk.text path = .ok text) (parsed : Toml.read? text.toList = some doc) :
      Selected env disk doc

/-- There is a configuration file, and its text cannot be read or does not give settings. -/
inductive Unusable (env : Environment) (disk : Disk) : Prop
  | unread {path : String} {fault : Fault} (file : file? env disk = some path)
      (read : disk.text path = .error fault) : Unusable env disk
  | misread {path text : String} {e : Error} (file : file? env disk = some path)
      (read : disk.text path = .ok text) (parsed : ofToml text = .error e) : Unusable env disk

/-- The configuration below the environment. -/
def below (env : Environment) (disk : Disk) : Except Error Config :=
  match file? env disk with
  | some path => ofFile disk path
  | none => .ok {}

theorem ofToml_eq_ok_iff {text : String} {c : Config} :
    ofToml text = .ok c ↔ ∃ doc, Toml.read? text.toList = some doc ∧ ofEntries? doc = some c := by
  cases hdoc : Toml.read? text.toList with
  | none => simp [ofToml, hdoc]
  | some doc => cases hc : ofEntries? doc <;> simp [ofToml, hdoc, hc]

theorem below_eq_ok_iff {env : Environment} {disk : Disk} {c : Config} :
    below env disk = .ok c ↔ ∃ doc, Selected env disk doc ∧ ofEntries? doc = some c := by
  have hempty : ofEntries? [] = some {} := rfl
  cases hfile : file? env disk with
  | none =>
    simp only [below, hfile]
    constructor
    · rintro ⟨⟩
      exact ⟨[], .absent hfile, hempty⟩
    · rintro ⟨_, hdoc | ⟨hsome, -, -⟩, hc⟩
      · rw [Option.some.inj (hempty.symm.trans hc)]
      · rw [hfile] at hsome
        cases hsome
  | some path =>
    simp only [below, hfile, ofFile]
    constructor
    · intro h
      split at h
      · cases h
      · next text htext =>
        obtain ⟨doc, hdoc, hc⟩ := ofToml_eq_ok_iff.mp h
        exact ⟨doc, .present hfile htext hdoc, hc⟩
    · rintro ⟨doc, hnone | ⟨hsome, htext, hdoc⟩, hc⟩
      · rw [hfile] at hnone
        cases hnone
      · cases hfile.symm.trans hsome
        rw [htext]
        exact ofToml_eq_ok_iff.mpr ⟨doc, hdoc, hc⟩

theorem below_eq_error_iff {env : Environment} {disk : Disk} :
    (∃ e, below env disk = .error e) ↔ Unusable env disk := by
  constructor
  · rintro ⟨e, h⟩
    unfold below at h
    split at h
    · next path hfile =>
      cases htext : disk.text path with
      | error fault => exact .unread hfile htext
      | ok text =>
        rw [ofFile, htext] at h
        exact .misread hfile htext h
    · cases h
  · rintro (⟨hfile, htext⟩ | ⟨hfile, htext, hparsed⟩)
    · simp [below, hfile, ofFile, htext]
    · simp [below, hfile, ofFile, htext, hparsed]

/-! ## The environment above it -/

/-- The value of a setting: the environment's if it has one, else the document's. -/
inductive Field.Layered {α : Type} (f : Field α) (env : Environment) (doc : Entries) : α → Prop
  | taken {value under : α} (takes : f.Takes env value) (given : f.Given doc under) :
      Layered f env doc value
  | left {value : α} (unset : ∀ v, ¬ f.Takes env v) (given : f.Given doc value) :
      Layered f env doc value

/-- Every setting is the one of its uppermost layer. -/
def Merged (env : Environment) (doc : Entries) (c : Config) : Prop :=
  ∀ (α : Type) (f : Field α), f.Layered env doc (f.get c)

theorem Field.layered_iff {α : Type} {f : Field α} {env : Environment} {doc : Entries}
    {value : α} : f.Layered env doc value ↔
      ∃ under, f.Given doc under ∧ (f.taken? env).getD under = value := by
  constructor
  · intro h
    cases h with
    | taken htakes hgiven =>
      exact ⟨_, hgiven, by rw [taken?_eq_some_iff.mpr htakes, Option.getD_some]⟩
    | left hunset hgiven =>
      have hnone : f.taken? env = none :=
        Option.eq_none_iff_forall_ne_some.mpr fun v hv => hunset v (taken?_eq_some_iff.mp hv)
      exact ⟨value, hgiven, by rw [hnone, Option.getD_none]⟩
  · rintro ⟨under, hgiven, rfl⟩
    cases htaken : f.taken? env with
    | none =>
      refine .left (fun v hv => ?_) hgiven
      rw [taken?_eq_some_iff.mpr hv] at htaken
      cases htaken
    | some v => exact .taken (taken?_eq_some_iff.mp htaken) hgiven

theorem merged_iff {env : Environment} {doc : Entries} {c : Config} : Merged env doc c ↔
    ∃ base, ofEntries? doc = some base ∧ withEnvironment env base = c := by
  constructor
  · intro h
    choose under hgiven hvalue using fun α f => Field.layered_iff.mp (h α f)
    refine ⟨ofValues under, ofEntries?_eq_some_iff.mpr fun α f => ?_, eq_of_get fun α f => ?_⟩
    · rw [Field.get_ofValues]
      exact hgiven α f
    · rw [Field.get_withEnvironment, Field.get_ofValues, hvalue]
  · rintro ⟨base, hbase, rfl⟩ α f
    exact Field.layered_iff.mpr
      ⟨f.get base, ofEntries?_eq_some_iff.mp hbase α f, (f.get_withEnvironment env base).symm⟩

theorem load_eq (env : Environment) (disk : Disk) : load env disk =
    (below env disk).bind fun base =>
      (withEnvironment env base).validate.map fun _ => withEnvironment env base := by
  have hcheck : ∀ base, (do
      (withEnvironment env base).validate
      return withEnvironment env base) =
      (withEnvironment env base).validate.map fun _ => withEnvironment env base := by
    intro base
    cases (withEnvironment env base).validate <;> rfl
  simp only [load, hcheck]
  rw [below]
  cases file? env disk <;> rfl

theorem exists_below_of_load {env : Environment} {disk : Disk} {c : Config}
    (h : load env disk = .ok c) :
    ∃ base, below env disk = .ok base ∧ withEnvironment env base = c ∧ c.validate = .ok () := by
  rw [load_eq] at h
  cases hbelow : below env disk with
  | error e =>
    rw [hbelow] at h
    cases h
  | ok base =>
    simp only [hbelow, Except.bind] at h
    cases hv : (withEnvironment env base).validate with
    | error e =>
      rw [hv] at h
      cases h
    | ok =>
      rw [hv] at h
      cases h
      exact ⟨base, rfl, rfl, hv⟩

/-- Loading gives what the layers give, if it is valid. -/
theorem load_eq_ok_iff {env : Environment} {disk : Disk} {c : Config} : load env disk = .ok c ↔
    ∃ doc, Selected env disk doc ∧ Merged env doc c ∧ c.validate = .ok () := by
  constructor
  · intro h
    obtain ⟨base, hbelow, hc, hv⟩ := exists_below_of_load h
    obtain ⟨doc, hdoc, hbase⟩ := below_eq_ok_iff.mp hbelow
    exact ⟨doc, hdoc, merged_iff.mpr ⟨base, hbase, hc⟩, hv⟩
  · rintro ⟨doc, hdoc, hmerged, hv⟩
    obtain ⟨base, hbase, rfl⟩ := merged_iff.mp hmerged
    rw [load_eq, below_eq_ok_iff.mpr ⟨doc, hdoc, hbase⟩]
    simp only [Except.bind, hv]
    rfl

/-- Loading fails with a file that is of no use and with what the layers give if it is not valid,
and in no other way. -/
theorem load_eq_error_iff {env : Environment} {disk : Disk} : (∃ e, load env disk = .error e) ↔
    Unusable env disk ∨ ∃ doc c e, Selected env disk doc ∧ Merged env doc c ∧
      c.validate = .error e := by
  rw [load_eq]
  constructor
  · rintro ⟨e, h⟩
    cases hbelow : below env disk with
    | error e' => exact Or.inl (below_eq_error_iff.mp ⟨e', hbelow⟩)
    | ok base =>
      rw [hbelow] at h
      obtain ⟨doc, hdoc, hbase⟩ := below_eq_ok_iff.mp hbelow
      cases hv : (withEnvironment env base).validate with
      | error e' => exact Or.inr ⟨doc, _, e', hdoc, merged_iff.mpr ⟨base, hbase, rfl⟩, hv⟩
      | ok =>
        simp only [Except.bind, hv] at h
        cases h
  · rintro (hunusable | ⟨doc, c, e, hdoc, hmerged, hv⟩)
    · obtain ⟨e, he⟩ := below_eq_error_iff.mpr hunusable
      exact ⟨e, by rw [he]; rfl⟩
    · obtain ⟨base, hbase, rfl⟩ := merged_iff.mp hmerged
      refine ⟨e, ?_⟩
      rw [below_eq_ok_iff.mpr ⟨doc, hdoc, hbase⟩]
      simp only [Except.bind, hv]
      rfl

/-! ## What does not count -/

theorem file?_congr {env other : Environment} (h : env.SameBelow other) (disk : Disk) :
    file? env disk = file? other disk := by
  have hget : ∀ name ∈ ["HOME", "XDG_CONFIG_HOME", "DOCSIFT_CONFIG_DIR", "DOCSIFT_CONFIG"],
      env.get? name = other.get? name := by
    intro name hname
    apply h.get?_eq
    intro α f
    revert name
    cases f <;> decide
  have huser : userFile env = userFile other := by
    simp only [userFile, directory, homeDirectory, hget "HOME" (by decide),
      hget "XDG_CONFIG_HOME" (by decide), hget "DOCSIFT_CONFIG_DIR" (by decide), h.home_eq]
  rw [file?, file?, hget "DOCSIFT_CONFIG" (by decide), huser]

/-- A setting without a variable is the same below all variables of settings. -/
theorem get_eq_of_sameBelow {env other : Environment} {disk : Disk} {c d : Config} {α : Type}
    {f : Field α} (h : env.SameBelow other) (hf : f.variableName? = none)
    (hc : load env disk = .ok c) (hd : load other disk = .ok d) : f.get c = f.get d := by
  have htaken : ∀ env, f.taken? env = none := by
    intro env
    rw [Field.taken?, hf]
    rfl
  obtain ⟨base, hbase, rfl, -⟩ := exists_below_of_load hc
  obtain ⟨base', hbase', rfl, -⟩ := exists_below_of_load hd
  rw [below, ← file?_congr h, ← below, hbase] at hbase'
  cases hbase'
  rw [Field.get_withEnvironment, Field.get_withEnvironment, htaken, htaken]

/-- No two settings share a variable. -/
theorem Field.eq_of_variableName? {α β : Type} {f : Field α} {g : Field β} {name : String}
    (hf : f.variableName? = some name) (hg : g.variableName? = some name) :
    (⟨α, f⟩ : (α : Type) × Field α) = ⟨β, g⟩ := by
  cases f <;> cases hf <;> cases g <;> first | rfl | exact absurd hg (by decide)

theorem Field.taken?_without {α β : Type} {f : Field α} {env : Environment} {name : String}
    (hf : f.variableName? = some name) (htaken : f.taken? env = none) (g : Field β) :
    g.taken? (env.without name) = g.taken? env := by
  by_cases hg : g.variableName? = some name
  · cases Field.eq_of_variableName? hf hg
    rw [htaken, taken?, hf, Option.bind_some, Environment.without]
    simp only [↓reduceIte, Option.bind_none]
  · rw [taken?, taken?]
    cases hname : g.variableName? with
    | none => rfl
    | some other =>
      rw [hname, Option.some_inj] at hg
      rw [Option.bind_some, Option.bind_some, Environment.without]
      simp only [if_neg hg]

theorem load_congr {env other : Environment} {disk : Disk}
    (hfile : file? env disk = file? other disk)
    (htaken : ∀ (α : Type) (f : Field α), f.taken? env = f.taken? other) :
    load env disk = load other disk := by
  have hmerged : withEnvironment env = withEnvironment other := by
    funext base
    apply eq_of_get
    intro α f
    rw [Field.get_withEnvironment, Field.get_withEnvironment, htaken]
  rw [load_eq, load_eq, below, below, hfile, hmerged]

/-- A malformed value is as good as none. -/
theorem load_without {env : Environment} {disk : Disk} {α : Type} {f : Field α} {name : String}
    (hf : f.variableName? = some name) (h : ∀ value, ¬ f.Takes env value) :
    load (env.without name) disk = load env disk := by
  have htaken : f.taken? env = none :=
    Option.eq_none_iff_forall_ne_some.mpr fun v hv => h v (Field.taken?_eq_some_iff.mp hv)
  have hsame : (env.without name).SameBelow env := by
    refine ⟨fun other hother => if_neg ?_, rfl⟩
    rintro rfl
    exact hother α f hf
  exact load_congr (file?_congr hsame disk) fun β g => Field.taken?_without hf htaken g

/-- What loading gives is valid and has each setting from its uppermost layer. It fails with a
useless file or an invalid result only. The variables of settings have no say in which file is read
nor in how paragraphs are displayed, and a malformed one counts as unset. -/
theorem load_layers (env : Environment) (disk : Disk) :
    (∀ c, load env disk = .ok c ↔
      ∃ doc, Selected env disk doc ∧ Merged env doc c ∧ c.validate = .ok ()) ∧
    ((∃ e, load env disk = .error e) ↔ Unusable env disk ∨
      ∃ doc c e, Selected env disk doc ∧ Merged env doc c ∧ c.validate = .error e) ∧
    (∀ c : Config, c.validate = .ok () ↔ c.Valid) ∧
    (∀ other, env.SameBelow other → file? env disk = file? other disk ∧
      ∀ c d, load env disk = .ok c → load other disk = .ok d →
        c.outlineLimit = d.outlineLimit ∧ c.previewChars = d.previewChars) ∧
    ∀ (α : Type) (f : Field α) name, f.variableName? = some name →
      (∀ value, ¬ f.Takes env value) → load (env.without name) disk = load env disk := by
  refine ⟨fun c => load_eq_ok_iff, load_eq_error_iff, fun c => validate_eq_ok_iff, ?_,
    fun α f name => load_without⟩
  intro other hsame
  refine ⟨file?_congr hsame disk, fun c d hc hd => ⟨?_, ?_⟩⟩
  · exact get_eq_of_sameBelow (f := .outlineLimit) hsame rfl hc hd
  · exact get_eq_of_sameBelow (f := .previewChars) hsame rfl hc hd

def repairing : Environment where
  get? name := [("DOCSIFT_PAGE_SIZE", "+07"), ("DOCSIFT_CASE_SENSITIVE", " YES "),
    ("DOCSIFT_TIMEOUT_SEC", " 5")].lookup name
  accountHome := none

/-- The file has a page size that will not do. -/
def repaired : Disk :=
  .ofReadings [("docsift.toml",
    .ok ("[search]\npage_size = 0\n[display]\noutline_limit = 9".toList.map (·.toNat.toUInt8)))]

theorem load_layers_repaired :
    load repairing repaired = .ok
      { pageSize := 7, caseSensitive := true, outlineLimit := 9 } ∧
    (∀ n, ¬ Field.timeoutSeconds.Takes repairing n) ∧
    load (repairing.without "DOCSIFT_TIMEOUT_SEC") repaired = load repairing repaired ∧
    ∃ c d, load repairing repaired = .ok c ∧
      load (repairing.without "DOCSIFT_CASE_SENSITIVE") repaired = .ok d ∧
      c.caseSensitive ≠ d.caseSensitive ∧
      c.outlineLimit = d.outlineLimit ∧ c.previewChars = d.previewChars := by
  obtain ⟨-, -, -, hbelow, hmalformed⟩ := load_layers repairing repaired
  have htimeout : ∀ n, ¬ Field.timeoutSeconds.Takes repairing n := by
    intro n h
    have hnone : Field.timeoutSeconds.taken? repairing = none := by decide +kernel
    rw [Field.taken?_eq_some_iff.mpr h] at hnone
    cases hnone
  have hload : load repairing repaired = .ok
      { pageSize := 7, caseSensitive := true, outlineLimit := 9 } := by
    decide +kernel
  have hwithout : load (repairing.without "DOCSIFT_CASE_SENSITIVE") repaired = .ok
      { pageSize := 7, outlineLimit := 9 } := by decide +kernel
  have hsame : repairing.SameBelow (repairing.without "DOCSIFT_CASE_SENSITIVE") := by
    refine ⟨fun name hname => (if_neg ?_).symm, rfl⟩
    rintro rfl
    exact hname _ .caseSensitive rfl
  exact ⟨hload, htimeout, hmalformed _ .timeoutSeconds _ rfl htimeout, _, _, hload, hwithout,
    by decide, (hbelow _ hsame).2 _ _ hload hwithout⟩

end Config

end Passage
