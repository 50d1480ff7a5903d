import Passage.Proofs.Toml.Values

/-!
# What lines state

A line that is written for a header or for a setting is read as that statement, and lines
one after another state what each of them states. Blank lines and comments in front state
nothing. Only names that need no quotes are considered.
-/

namespace Passage.Toml

/-! ## Keys -/

/-- A name that needs no quotes. -/
structure Bare (name : String) : Prop where
  nonempty : name.toList ≠ []
  bare : name.toList.all isBare

instance (name : String) : Decidable (Bare name) :=
  decidable_of_iff (name.toList ≠ [] ∧ name.toList.all isBare)
    ⟨fun ⟨a, b⟩ => ⟨a, b⟩, fun ⟨a, b⟩ => ⟨a, b⟩⟩

namespace Bare

variable {name : String}

/-- Such a name does not begin like a string, a header, a comment or white space. -/
theorem exists_cons (h : Bare name) : ∃ c t, name.toList = c :: t ∧
    c ∉ ['"', '\'', '[', '#', ' ', '\t', '\n', '\r'] := by
  have hmark : ∀ c ∈ ['"', '\'', '[', '#', ' ', '\t', '\n', '\r'], isBare c = false := by decide
  obtain ⟨c, t, hc⟩ := List.exists_cons_of_ne_nil h.nonempty
  refine ⟨c, t, hc, fun hmem => ?_⟩
  have hbare : isBare c := List.all_eq_true.mp h.bare c (hc ▸ List.mem_cons_self)
  rw [hmark c hmem] at hbare
  cases hbare

theorem key? (h : Bare name) {c : Char} (hc : isBare c = false) (rest : List Char) :
    key? (name.toList ++ c :: rest) = some (name, c :: rest) := by
  obtain ⟨hname, hrest⟩ := takeWhile_append_stop (List.all_eq_true.mp h.bare) hc rest
  obtain ⟨d, t, hd, hmark⟩ := h.exists_cons
  rw [hd, List.cons_append] at hname hrest ⊢
  simp only [List.mem_cons, List.not_mem_nil, or_false, not_or] at hmark
  rw [Toml.key?, hname, hrest]
  · change some (String.ofList (d :: t), c :: rest) = _
    rw [← hd, String.ofList_toList]
  all_goals grind

/-- A key ends in front of a blank, which is passed over, or of the mark behind it. -/
theorem keys? (h : Bare name) {c : Char} {rest rest' : List Char} (hc : isBare c = false)
    (hskip : skipBlanks (c :: rest) = rest') (hdot : rest'.head? ≠ some '.') :
    keys? (name.toList ++ c :: rest) = some ([name], rest') := by
  have hhead : skipBlanks (name.toList ++ c :: rest) = name.toList ++ c :: rest := by
    obtain ⟨d, t, hd, hmark⟩ := h.exists_cons
    have hinline : isInline d = false := by
      simp only [List.mem_cons, List.not_mem_nil, or_false, not_or] at hmark
      simp [isInline, hmark]
    rw [hd, List.cons_append, skipBlanks, List.dropWhile_cons_of_neg (by simp [hinline])]
  have hfrom : keysFrom? (name.toList ++ c :: rest) = some ([name], rest') := by
    rw [keysFrom?, hhead, h.key? hc]
    simp only [hskip]
    split
    · next h => exact absurd rfl hdot
    · rfl
  rw [Toml.keys?, hfrom]
  rfl

end Bare

/-! ## Lines -/

theorem statement?_header {name : String} (h : Bare name) (rest : List Char) :
    statement? ('[' :: (name.toList ++ ']' :: '\n' :: rest)) =
      some (.table [name], '\n' :: rest) := by
  have hkeys : keys? (name.toList ++ ']' :: '\n' :: rest) =
      some ([name], ']' :: '\n' :: rest) := h.keys? (by decide) rfl (by simp)
  obtain ⟨c, t, hc, hmark⟩ := h.exists_cons
  have hone : c ≠ '[' := by
    rintro rfl
    exact hmark (by decide)
  rw [hc, List.cons_append] at hkeys ⊢
  rw [statement?, if_pos List.head?_cons, header?]
  · simp only [hkeys]
  · intro more hmore
    exact hone (List.cons.inj hmore).1

theorem statement?_setting {name : String} (h : Bare name) {v : Setting} {t : List Char}
    (hv : v.text? = some t) (rest : List Char) :
    statement? (name.toList ++ ' ' :: '=' :: ' ' :: (t ++ '\n' :: rest)) =
      some (.pair [name] v.item, '\n' :: rest) := by
  have hkeys : keys? (name.toList ++ ' ' :: '=' :: ' ' :: (t ++ '\n' :: rest)) =
      some ([name], '=' :: ' ' :: (t ++ '\n' :: rest)) := h.keys? (by decide) rfl (by simp)
  have hblank : skipBlanks (' ' :: (t ++ '\n' :: rest)) = t ++ '\n' :: rest := by
    obtain ⟨d, more, rfl, hd⟩ := exists_cons_text? hv
    have hinline : ¬ isInline d := by
      intro hi
      simp only [isInline, Bool.or_eq_true, decide_eq_true_eq] at hi
      rcases hi with rfl | rfl
      all_goals exact absurd hd (by decide)
    rw [skipBlanks, List.dropWhile_cons_of_pos rfl, List.cons_append,
      List.dropWhile_cons_of_neg hinline]
  obtain ⟨c, more, hc, hmark⟩ := h.exists_cons
  have hhead : (name.toList ++ ' ' :: '=' :: ' ' :: (t ++ '\n' :: rest)).head? ≠ some '[' := by
    rw [hc, List.cons_append, List.head?_cons, ne_eq, Option.some.injEq]
    rintro rfl
    exact hmark (by decide)
  rw [statement?, if_neg hhead, pair?, hkeys]
  simp only [hblank, maxDepth, value?_text? hv, Option.map_some]

theorem endLine?_break (rest : List Char) : endLine? ('\n' :: rest) = some rest := rfl

/-- What may stand in front of a statement and states nothing. -/
def Filler (filler : List Char) : Prop :=
  ∀ rest, skipFiller false (filler ++ rest) = skipFiller false rest

theorem filler_nil : Filler [] := fun _ => rfl

theorem filler_break : Filler ['\n'] := fun _ => rfl

theorem filler_comment {s : List Char} (hs : ∀ c ∈ s, isControl c = false) :
    Filler ('#' :: (s ++ ['\n'])) := by
  have hopen : ∀ rest, skipFiller true (s ++ '\n' :: rest) = skipFiller false rest := by
    intro rest
    induction s with
    | nil => rfl
    | cons c s ih =>
      obtain ⟨hc, hs⟩ := List.forall_mem_cons.mp hs
      have hbreak : c ≠ '\n' := by
        rintro rfl
        cases hc
      have hreturn : c ≠ '\r' := by
        rintro rfl
        cases hc
      simp [skipFiller, hbreak, hreturn, hc, ih hs]
  intro rest
  rw [List.cons_append, List.append_assoc]
  exact hopen rest

/-- A text states these, whatever stands behind it and states nothing in front of it. -/
def States (text : List Char) (xs : List Statement) : Prop :=
  ∀ filler, Filler filler → ∀ rest,
    statements? (filler ++ (text ++ rest)) = (statements? rest).map (xs ++ ·)

theorem States.append {a b : List Char} {xs ys : List Statement} (ha : States a xs)
    (hb : States b ys) : States (a ++ b) (xs ++ ys) := by
  intro filler hfiller rest
  have hbehind := hb [] filler_nil rest
  rw [List.nil_append] at hbehind
  rw [List.append_assoc, ha filler hfiller, hbehind, Option.map_map]
  simp [Function.comp_def]

/-- A line states what is read up to its end. -/
theorem states_line {line : List Char} {x : Statement}
    (hhead : ∀ rest, skipFiller false (line ++ '\n' :: rest) = line ++ '\n' :: rest)
    (hline : ∀ rest, statement? (line ++ '\n' :: rest) = some (x, '\n' :: rest)) :
    States (line ++ ['\n']) [x] := by
  intro filler hfiller rest
  have htext : filler ++ (line ++ ['\n'] ++ rest) = filler ++ (line ++ '\n' :: rest) := by simp
  have hskip : skipFiller false (filler ++ (line ++ '\n' :: rest)) = line ++ '\n' :: rest := by
    rw [hfiller, hhead]
  have hshorter : rest.length < (filler ++ (line ++ '\n' :: rest)).length := by
    simp only [List.length_append, List.length_cons]
    omega
  rw [htext, statements?]
  split
  · next hnone => simp [hskip] at hnone
  · next c t hsome =>
    rw [← hsome, hskip, hline]
    simp only [endLine?_break, if_pos hshorter]
    rfl

theorem states_header {name : String} (h : Bare name) :
    States ('[' :: name.toList ++ [']', '\n']) [.table [name]] := by
  have hline : '[' :: name.toList ++ [']', '\n'] = ('[' :: (name.toList ++ [']'])) ++ ['\n'] := by
    simp
  rw [hline]
  refine states_line (fun rest => rfl) fun rest => ?_
  simpa using statement?_header h rest

theorem states_setting {name : String} (h : Bare name) {v : Setting} {line : List Char}
    (hv : settingLine? name v = some line) : States line [.pair [name] v.item] := by
  obtain ⟨t, ht, rfl⟩ := Option.map_eq_some_iff.mp hv
  refine states_line (fun rest => ?_) fun rest => ?_
  · obtain ⟨c, more, hc, hmark⟩ := h.exists_cons
    simp only [List.mem_cons, List.not_mem_nil, or_false, not_or] at hmark
    simp [hc, skipFiller, isInline, hmark]
  · simpa using statement?_setting h ht rest

/-! ## Sections -/

/-- What the lines of a section state. -/
def sectionStatements (name : String) (settings : List (String × Setting)) : List Statement :=
  .table [name] :: settings.map fun s => .pair [s.1] s.2.item

/-- The lines of settings go on behind a line. -/
theorem States.settings {front : List Char} {xs : List Statement} (hfront : States front xs)
    {settings : List (String × Setting)} (h : ∀ k ∈ settings.map Prod.fst, Bare k)
    {lines : List (List Char)}
    (hlines : settings.mapM (fun (k, v) => settingLine? k v) = some lines) :
    States (front ++ lines.flatten) (xs ++ settings.map fun s => .pair [s.1] s.2.item) := by
  induction settings generalizing front xs lines with
  | nil =>
    cases hlines
    simpa using hfront
  | cons s settings ih =>
    obtain ⟨hs, h⟩ := List.forall_mem_cons.mp h
    simp only [List.mapM_cons, Option.bind_eq_bind, Option.bind_eq_some_iff, Option.pure_def,
      Option.some.injEq] at hlines
    obtain ⟨line, hline, more, hmore, rfl⟩ := hlines
    simpa using ih (hfront.append (states_setting hs hline)) h hmore

theorem states_section {name : String} (hname : Bare name) {settings : List (String × Setting)}
    (h : ∀ k ∈ settings.map Prod.fst, Bare k) {text : List Char}
    (htext : section? name settings = some text) :
    States text (sectionStatements name settings) := by
  obtain ⟨lines, hlines, rfl⟩ := Option.map_eq_some_iff.mp htext
  exact (states_header hname).settings h hlines

/-! ## Documents -/

/-- Settings under headers, as a document is written from them. -/
abbrev Sections := List (String × List (String × Setting))

/-- No name needs quotes, and none is used twice where it would stand for one thing. -/
structure Sections.Plain (ss : Sections) : Prop where
  names : ∀ s ∈ ss, Bare s.1
  keys : ∀ s ∈ ss, ∀ k ∈ s.2.map Prod.fst, Bare k
  names_nodup : (ss.map Prod.fst).Nodup
  keys_nodup : ∀ s ∈ ss, (s.2.map Prod.fst).Nodup

theorem statements?_filler {filler : List Char} (h : Filler filler) :
    statements? filler = some [] := by
  have hskip : skipFiller false filler = [] := by
    have hnil := h []
    rwa [List.append_nil] at hnil
  rw [statements?]
  split
  · rfl
  · next hsome =>
    rw [hskip] at hsome
    cases hsome

/-- A document states what its sections state, in order. -/
theorem statements?_document {ss : Sections} (hnames : ∀ s ∈ ss, Bare s.1)
    (hkeys : ∀ s ∈ ss, ∀ k ∈ s.2.map Prod.fst, Bare k) {text : List Char}
    (htext : document? ss = some text) {filler : List Char} (hfiller : Filler filler) :
    statements? (filler ++ text) = some (ss.flatMap fun s => sectionStatements s.1 s.2) := by
  obtain ⟨texts, htexts, rfl⟩ := Option.map_eq_some_iff.mp htext
  clear htext
  induction ss generalizing texts filler with
  | nil =>
    cases htexts
    exact (congrArg statements? (List.append_nil filler)).trans (statements?_filler hfiller)
  | cons s ss ih =>
    obtain ⟨hname, hnames⟩ := List.forall_mem_cons.mp hnames
    obtain ⟨hkey, hkeys⟩ := List.forall_mem_cons.mp hkeys
    simp only [List.mapM_cons, Option.bind_eq_bind, Option.bind_eq_some_iff, Option.pure_def,
      Option.some.injEq] at htexts
    obtain ⟨text, htext, more, hmore, rfl⟩ := htexts
    have hstates := states_section hname hkey htext
    cases more with
    | nil =>
      have hend : statements? [] = _ := ih hnames hkeys filler_nil _ hmore
      have hlast := hstates filler hfiller []
      rw [List.append_nil, hend] at hlast
      rw [List.intercalate_singleton, hlast, List.flatMap_cons]
      rfl
    | cons next more =>
      rw [List.intercalate_cons_cons, List.append_assoc, hstates filler hfiller,
        ih hnames hkeys filler_break _ hmore, List.flatMap_cons]
      rfl

end Passage.Toml
