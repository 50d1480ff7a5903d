import Mathlib.Tactic.SplitIfs
import Passage.Dialogue.Command
import Passage.Proofs.Numeral
import Passage.Proofs.Text.AsciiCase
import Passage.Proofs.Text.Trim

/-!
# Reading commands

What a line asks for is decided by its trimmed text. A line without a leading colon is a
query. Behind a colon stands a name up to the first blank, and what a name asks for is
said without the order in which the names are tried.
-/

namespace Passage.Dialogue.Command

open Text

/-- White space around a line does not count. -/
theorem parse_congr {line other : String} (h : trim line.toList = trim other.toList) :
    parse line = parse other := by
  rw [parse, parse, h]

theorem parse_query {line : String} (h : (trim line.toList).head? ≠ some ':') :
    parse line = .query (trimmed line) := by
  rw [parse]
  simp only
  split
  · next hr =>
    rw [hr] at h
    exact absurd rfl h
  · rfl

/-! ## Names -/

/-- The names of a command without an argument. -/
def names : Command → List String
  | next => ["next", "n"]
  | prev => ["prev", "p"]
  | toggleCase => ["case"]
  | toggleWord => ["word"]
  | outline => ["outline"]
  | help => ["help", "h", "?"]
  | quit => ["quit", "q", "exit"]
  | _ => []

theorem small_of_mem_names {c : Command} {word : String} (h : word ∈ c.names) :
    Small word ∧ (∀ b ∈ word.toList, isBlank b = false) ∧ word ≠ "page" ∧ word ≠ "load" := by
  revert word
  cases c
  case query | page | load | unknown => nofun
  all_goals decide

/-- No two commands share a name. -/
theorem plain?_eq_some_iff {word : String} {c : Command} :
    plain? word = some c ↔ word ∈ c.names := by
  constructor
  · intro h
    unfold plain? at h
    split_ifs at h <;> cases h <;> simp_all [names, or_assoc]
  · revert word
    cases c
    case query | page | load | unknown => nofun
    all_goals decide

/-- What a name and the text behind it ask for. -/
inductive Asks (name argument : List Char) : Command → Prop
  | plain {c : Command} {word : String} (known : word ∈ c.names) (spells : Spells name word)
      (alone : argument = []) : Asks name argument c
  | page {n : Nat} (spells : Spells name "page") (typed : Numeral.Typed argument n)
      (counted : 1 ≤ n) : Asks name argument (.page n)
  | load (spells : Spells name "load") (given : argument ≠ []) :
      Asks name argument (.load (String.ofList argument))

theorem named?_eq_some_iff {name argument : List Char} {c : Command} :
    named? (String.ofList (name.map Char.toLower)) argument = some c ↔ Asks name argument c := by
  have hpage := spells_iff (show Small "page" by decide) name
  have hload := spells_iff (show Small "load" by decide) name
  constructor
  · intro h
    unfold named? at h
    split_ifs at h with hp hl hnil hnil
    · split at h
      · next n hn =>
        obtain ⟨h1, h⟩ := Option.ite_none_right_eq_some.mp h
        cases h
        exact .page (hpage.mpr hp) (Numeral.read?_eq_some_iff.mp hn) h1
      · cases h
    · cases h
      exact .load (hload.mpr hl) hnil
    · have hname := plain?_eq_some_iff.mp h
      exact .plain hname ((spells_iff (small_of_mem_names hname).1 name).mpr rfl) hnil
  · rintro (@⟨_, word, hname, hspells, rfl⟩ | @⟨n, hspells, htyped, h1⟩ | ⟨hspells, hne⟩)
    · obtain ⟨hsmall, -, hnp, hnl⟩ := small_of_mem_names hname
      rw [(spells_iff hsmall name).mp hspells, named?, if_neg hnp, if_neg hnl, if_pos rfl]
      exact plain?_eq_some_iff.mpr hname
    · rw [hpage.mp hspells, named?, if_pos rfl, Numeral.read?_eq_some_iff.mpr htyped]
      exact if_pos h1
    · rw [hload.mp hspells, named?, if_neg (by decide), if_pos rfl, if_neg hne]

/-! ## Lines with a name -/

/-- The trimmed line is a colon, a name up to the first blank, and the rest. -/
structure Named (line : String) (name rest : List Char) : Prop where
  text : trim line.toList = ':' :: (name ++ rest)
  unbroken : ∀ c ∈ name, isBlank c = false
  blank : ∀ c ∈ rest.head?, isBlank c

theorem exists_named {line : String} (h : (trim line.toList).head? = some ':') :
    ∃ name rest, Named line name rest := by
  obtain ⟨text, htext⟩ := List.head?_eq_some_iff.mp h
  refine ⟨text.takeWhile (!isBlank ·), text.dropWhile (!isBlank ·), ?_, ?_, ?_⟩
  · rw [htext, List.takeWhile_append_dropWhile]
  · intro c hc
    simpa using List.all_eq_true.mp List.all_takeWhile c hc
  · intro c hc
    have hhead := List.head?_dropWhile_not (!isBlank ·) text
    rw [hc] at hhead
    simpa using hhead

theorem Named.parse_eq {line : String} {name rest : List Char} (h : Named line name rest) :
    parse line = (named? (String.ofList (name.map Char.toLower)) (trim rest)).getD
      (.unknown (trimmed line)) := by
  have hall : ∀ c ∈ name, (!isBlank c) = true := by
    intro c hc
    rw [h.unbroken c hc]
    rfl
  have htake : rest.takeWhile (!isBlank ·) = [] := by
    cases hrest : rest with
    | nil => rfl
    | cons b rest => rw [List.takeWhile_cons_of_neg (by simp [h.blank b (by simp [hrest])])]
  have hdrop : rest.dropWhile (!isBlank ·) = rest := by
    have hsplit := List.takeWhile_append_dropWhile (p := (!isBlank ·)) (l := rest)
    rwa [htake, List.nil_append] at hsplit
  rw [parse, trimmed]
  simp only [h.text]
  rw [List.takeWhile_append_of_pos hall, List.dropWhile_append_of_pos hall, htake, hdrop,
    List.append_nil]

theorem Named.parse_of_asks {line : String} {name rest : List Char} {c : Command}
    (h : Named line name rest) (hasks : Asks name (trim rest) c) : parse line = c := by
  rw [h.parse_eq, named?_eq_some_iff.mpr hasks, Option.getD_some]

/-- The reading of a line, by its trimmed text. -/
inductive Reads (line : String) : Command → Prop
  | query (plain : (trim line.toList).head? ≠ some ':') : Reads line (.query (trimmed line))
  | asked {name rest : List Char} {c : Command} (named : Named line name rest)
      (asks : Asks name (trim rest) c) : Reads line c
  | unknown {name rest : List Char} (named : Named line name rest)
      (strange : ∀ c, ¬ Asks name (trim rest) c) : Reads line (.unknown (trimmed line))

theorem reads_parse (line : String) : Reads line (parse line) := by
  by_cases hcolon : (trim line.toList).head? = some ':'
  · obtain ⟨name, rest, hnamed⟩ := exists_named hcolon
    rw [hnamed.parse_eq]
    cases hc : named? (String.ofList (name.map Char.toLower)) (trim rest) with
    | some c => exact .asked hnamed (named?_eq_some_iff.mp hc)
    | none =>
      refine .unknown hnamed fun c hasks => ?_
      rw [named?_eq_some_iff.mpr hasks] at hc
      cases hc
  · rw [parse_query hcolon]
    exact .query hcolon

theorem Reads.parse_eq {line : String} {c : Command} (h : Reads line c) : parse line = c := by
  cases h with
  | query hplain => exact parse_query hplain
  | asked hnamed hasks => exact hnamed.parse_of_asks hasks
  | @unknown name rest hnamed hstrange =>
    have hnone : named? (String.ofList (name.map Char.toLower)) (trim rest) = none :=
      Option.eq_none_iff_forall_ne_some.mpr fun c hc => hstrange c (named?_eq_some_iff.mp hc)
    rw [hnamed.parse_eq, hnone, Option.getD_none]

/-- Pages are counted from one. -/
theorem one_le_of_parse {line : String} {number : Nat} (h : parse line = .page number) :
    1 ≤ number := by
  have hreads := reads_parse line
  rw [h] at hreads
  cases hreads with
  | asked _ hasks =>
    cases hasks with
    | plain hknown => cases hknown
    | page _ _ hcounted => exact hcounted

/-- A name may be followed by blanks and an argument. -/
theorem named_ofList {name gap argument : List Char} (hname : ∀ c ∈ name, isBlank c = false)
    (hgap : ∀ c ∈ gap, isBlank c) (hne : gap = [] ↔ argument = []) (ha : Trimmed argument) :
    Named (String.ofList (':' :: (name ++ (gap ++ argument)))) name (gap ++ argument) := by
  refine ⟨?_, hname, ?_⟩
  · rw [String.toList_ofList]
    apply trim_of_trimmed
    constructor
    · rintro c ⟨⟩
      rfl
    · intro c hc
      by_cases hnil : argument = []
      · rw [hne.mpr hnil, hnil, List.append_nil, List.append_nil] at hc
        rcases List.mem_cons.mp (List.mem_of_getLast? hc) with rfl | hmem
        · rfl
        · exact hname c hmem
      · rw [← List.cons_append, ← List.append_assoc, List.getLast?_append_of_ne_nil _ hnil] at hc
        exact ha.back c hc
  · intro c hc
    cases gap with
    | nil =>
      rw [hne.mp rfl] at hc
      cases hc
    | cons b gap =>
      cases hc
      exact hgap c List.mem_cons_self

/-! ## Back from the written form -/

/-- How users write a command: any spelling of its name, and its argument behind blanks. -/
inductive Written : Command → List Char → Prop
  | query {text : List Char} (trimmed : Trimmed text) (plain : text.head? ≠ some ':') :
      Written (.query (String.ofList text)) text
  | plain {c : Command} {word : String} {name : List Char} (known : word ∈ c.names)
      (spells : Spells name word) : Written c (':' :: name)
  | page (n : Nat) (name gap : List Char) (spells : Spells name "page")
      (blank : ∀ c ∈ gap, isBlank c) (apart : gap ≠ []) (counted : 1 ≤ n) (fits : n < Numeral.bound) :
      Written (.page n) (':' :: (name ++ (gap ++ Numeral.decimal n)))
  | load (source name gap : List Char) (spells : Spells name "load")
      (blank : ∀ c ∈ gap, isBlank c) (apart : gap ≠ []) (trimmed : Trimmed source)
      (given : source ≠ []) :
      Written (.load (String.ofList source)) (':' :: (name ++ (gap ++ source)))

theorem trimmed_decimal (n : Nat) : Trimmed (Numeral.decimal n) := by
  have hblank : ∀ c ∈ Numeral.decimal n, isBlank c = false := by
    intro c hc
    have h := Numeral.isDigit_of_mem_decimal hc
    simp only [Char.isDigit, Bool.and_eq_true, decide_eq_true_eq, UInt32.le_iff_toNat_le] at h
    change 48 ≤ c.toNat ∧ c.toNat ≤ 57 at h
    simp [isBlank]
    omega
  exact ⟨fun c hc => hblank c (List.mem_of_mem_head? hc),
    fun c hc => hblank c (List.mem_of_getLast? hc)⟩

theorem Written.parse_ofList {c : Command} {text : List Char} (h : Written c text) :
    parse (String.ofList text) = c := by
  cases h with
  | query htrim hplain =>
    have htext : trim (String.ofList text).toList = text := by
      rw [String.toList_ofList, trim_of_trimmed htrim]
    rw [parse_query (by rwa [htext]), trimmed, htext]
  | @plain _ word name hknown hspells =>
    have hname := hspells.not_isBlank (small_of_mem_names hknown).2.1
    have hnamed := named_ofList hname (List.forall_mem_nil _) Iff.rfl (by decide)
    rw [List.append_nil, List.append_nil] at hnamed
    exact hnamed.parse_of_asks (.plain hknown hspells rfl)
  | page n name gap hspells hblank hapart h1 hfits =>
    have hname := hspells.not_isBlank (by decide)
    have hne : gap = [] ↔ Numeral.decimal n = [] := iff_of_false hapart (Numeral.decimal_ne_nil n)
    apply (named_ofList hname hblank hne (trimmed_decimal n)).parse_of_asks
    rw [trim_blanks_append hblank, trim_of_trimmed (trimmed_decimal n)]
    exact .page hspells (Numeral.read?_eq_some_iff.mp (Numeral.read?_decimal hfits)) h1
  | load source name gap hspells hblank hapart htrim hgiven =>
    have hname := hspells.not_isBlank (by decide)
    apply (named_ofList hname hblank (iff_of_false hapart hgiven) htrim).parse_of_asks
    rw [trim_blanks_append hblank, trim_of_trimmed htrim]
    exact .load hspells hgiven

theorem parse_load {source : List Char} (hs : Trimmed source) (hne : source ≠ []) :
    parse (String.ofList (":load ".toList ++ source)) = .load (String.ofList source) :=
  (Written.load source "load".toList [' '] (by decide) (by decide) (by decide) hs hne).parse_ofList

theorem parse_page {number : Nat} (h : 1 ≤ number) (hb : number < Numeral.bound) :
    parse (String.ofList (":page ".toList ++ Numeral.decimal number)) = .page number :=
  (Written.page number "page".toList [' '] (by decide) (by decide) (by decide) h hb).parse_ofList

end Passage.Dialogue.Command
