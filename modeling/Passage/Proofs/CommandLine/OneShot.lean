import Passage.CommandLine.Run
import Passage.Proofs.Dialogue.Fold
import Passage.Proofs.Json.Views
import Passage.Proofs.Text.Lines

/-!
# Searching once and in a dialogue

One search from the command line does what three lines of a dialogue do: a load, a query
and a jump to a page. The two read their inputs and choose the page each in its own way.
They succeed on the same inputs and print the same view: the same lines on a terminal, and in
JSON objects in which a reader finds it.
-/

namespace Passage

/-! ## Blanks around a query -/

theorem Search.prepare_trimmed (ps : List String) (query : String) :
    prepare ps (Text.trimmed query) = prepare ps query := by
  have h : Text.trim (Text.trimmed query).toList = Text.trim query.toList := by
    rw [Text.trimmed, String.toList_ofList, Text.trim_trim]
  rw [prepare, prepare, h, Text.trimmed, h, Text.trimmed]

theorem Session.search_trimmed (s : Session) (query : String) :
    s.search (Text.trimmed query) = s.search query := by
  have h : Search.limited s.maxQueryLength s.options s.paragraphs (Text.trimmed query) =
      Search.limited s.maxQueryLength s.options s.paragraphs query := by
    rw [Search.limited, Search.prepare_trimmed, Search.limited]
  rw [search, h, search]

namespace Dialogue

open Text

/-! ## Typed lines -/

/-- The bytes of lines, each with a line feed behind it. -/
def typed (lines : List String) : List UInt8 :=
  Utf8.encode (lines.flatMap fun line => line.toList ++ ['\n'])

/-- A line as it arrives: a carriage return at its end is lost. -/
def arrived (line : String) : String := String.ofList (closeLine '\r' line.toList.reverse)

theorem inputLines_encode (s : List Char) :
    inputLines (Utf8.encode s) = (lines s).map fun line => some (String.ofList line) := by
  rw [inputLines, byteLines_encode, List.map_map]
  exact List.map_congr_left fun line _ => Utf8.text?_encode line

theorem inputLines_typed {ls : List String} (h : ∀ line ∈ ls, '\n' ∉ line.toList) :
    inputLines (typed ls) = (ls.map arrived).map some := by
  rw [typed, inputLines_encode]
  induction ls with
  | nil => rfl
  | cons line ls ih =>
    obtain ⟨hline, hls⟩ := List.forall_mem_cons.mp h
    rw [List.flatMap_cons, List.append_assoc, List.singleton_append, lines_append_break hline,
      List.map_cons, ih hls]
    rfl

theorem parse_arrived (line : String) : Command.parse (arrived line) = Command.parse line := by
  apply Command.parse_congr
  rw [arrived, String.toList_ofList, trim_closeLine]

end Dialogue

namespace CommandLine

open Dialogue (Sources Turn inputLines typed arrived)

/-- The sources of a dialogue whose surroundings stay as they are. -/
def Surroundings.sources (w : Surroundings) (c : Config) (fromFile : Bool) : Sources :=
  ⟨fromFile, c.endpoint, fun _ => w.disk, fun _ => w.service⟩

theorem Surroundings.extract_sources (w : Surroundings) (c : Config) (fromFile : Bool) (i : Nat) :
    (w.sources c fromFile).extract i = w.extract c fromFile :=
  rfl

/-- The dialogue over typed lines in which no source is loaded at first. -/
def dialogue (w : Surroundings) (c : Config) (format : Format) (choices : Choices)
    (lines : List String) : Turn :=
  Dialogue.run (setting w c format) (fun _ => w.extract c choices.fromFile) (sessionFor c choices)
    (inputLines (typed lines))

/-- The lines that ask for what one search does. -/
def script (source query : String) (page : Nat) : List String :=
  [":load " ++ source, query, ":page " ++ String.ofList (Numeral.decimal page)]

/-- The session after a load, a search and a jump to a page. -/
def searched (w : Surroundings) (c : Config) (source query : String) (choices : Choices)
    (page : Nat) : Session :=
  let loaded := (sessionFor c choices).load source
    (w.extract c choices.fromFile (Text.trimmed source))
  (loaded.1.search query).1.goTo (page - 1)

section

variable (w : Surroundings) (c : Config) (format : Format) (choices : Choices)

theorem dialogue_eq {lines : List String} (h : ∀ line ∈ lines, '\n' ∉ line.toList) :
    dialogue w c format choices lines = (Dialogue.turns (setting w c format)
      (w.sources c choices.fromFile).extract 0 (sessionFor c choices)
        ((lines.map arrived).map some)).after (Dialogue.prompt (setting w c format)) := by
  rw [dialogue, Dialogue.inputLines_typed h]
  rfl

theorem dialogue_session {lines : List String} (h : ∀ line ∈ lines, '\n' ∉ line.toList) :
    (dialogue w c format choices lines).session =
      (Dialogue.commands lines).zipIdx.foldl (w.sources c choices.fromFile).perform
        (sessionFor c choices) := by
  have hc : Dialogue.commands (lines.map arrived) = Dialogue.commands lines := by
    simp only [Dialogue.commands, List.map_map, Function.comp_def, Dialogue.parse_arrived]
  rw [dialogue_eq w c format choices h, Turn.after_session,
    (Dialogue.turns_fold _ _ _ _ _).1, hc]

/-- One more line is answered by a turn in the session that the others leave. -/
theorem dialogue_concat {lines : List String} {line : String}
    (hb : ∀ l ∈ lines ++ [line], '\n' ∉ l.toList)
    (hq : ∀ l ∈ lines ++ [line], Dialogue.Command.parse l ≠ .quit) :
    let before := dialogue w c format choices lines
    let t := Dialogue.turn (setting w c format) (w.extract c choices.fromFile) before.session
      (Dialogue.Command.parse line)
    dialogue w c format choices (lines ++ [line]) =
      ⟨t.session, before.output ++ (t.output ++ Dialogue.prompt (setting w c format)), none⟩ := by
  obtain ⟨hqs, hql⟩ := List.forall_mem_append.mp hq
  have hqa : ∀ l ∈ lines.map arrived, Dialogue.Command.parse l ≠ .quit := by
    intro l hl
    obtain ⟨l', hl', rfl⟩ := List.mem_map.mp hl
    rw [Dialogue.parse_arrived]
    exact hqs l' hl'
  have hla : Dialogue.Command.parse (arrived line) ≠ .quit := by
    rw [Dialogue.parse_arrived]
    exact hql line (List.mem_singleton_self line)
  have hlast : ∀ i s, Dialogue.turns (setting w c format) (w.sources c choices.fromFile).extract i s
      [some (arrived line)] =
        let t := Dialogue.turn (setting w c format) (w.extract c choices.fromFile) s
          (Dialogue.Command.parse line)
        ⟨t.session, t.output ++ Dialogue.prompt (setting w c format), none⟩ := by
    intro i s
    rw [Dialogue.turns_of_turn _ _ _ _ hla (Dialogue.turn_performs _ _ _ _ _).2,
      Dialogue.parse_arrived]
    simp [Dialogue.turns, Turn.after, Surroundings.extract_sources]
  intro before t
  have hbefore := dialogue_eq w c format choices (List.forall_mem_append.mp hb).1
  rw [dialogue_eq w c format choices hb, List.map_append, List.map_append,
    Dialogue.turns_append _ _ hqa]
  simp only [List.map_cons, List.map_nil, hlast]
  simp only [t, before, hbefore, Turn.after, String.append_assoc]

/-- What the program writes for typed lines is a greeting and their dialogue. -/
theorem interactive_typed {lines : List String}
    (h : (dialogue w c format choices lines).failure = none) :
    interactive { w with input := typed lines } c format none choices =
      { output := greeting w format ++ (dialogue w c format choices lines).output } := by
  have hopen : opening { w with input := typed lines } c format none choices =
      ⟨sessionFor c choices, greeting w format, none⟩ := by
    rw [opening]
    exact congrArg (Turn.mk _ · none) String.append_empty
  have hrun : Dialogue.run (setting { w with input := typed lines } c format)
      (fun _ => Surroundings.extract { w with input := typed lines } c choices.fromFile)
      (sessionFor c choices) (inputLines (typed lines)) = dialogue w c format choices lines := rfl
  rw [interactive, hopen]
  simp only [hrun, h]

/-! ## The three lines of a search -/

/-- A source, a query and a page that lines of a dialogue can ask for. -/
structure Askable (source query : String) (page : Nat) : Prop where
  source_trimmed : Text.trimmed source = source
  source_ne_empty : source ≠ ""
  source_unbroken : '\n' ∉ source.toList
  query_unbroken : '\n' ∉ query.toList
  query_plain : (Text.trim query.toList).head? ≠ some ':'
  page_pos : 1 ≤ page
  page_lt : page < Numeral.bound

variable {source query : String} {page : Nat}

theorem Askable.parse_load (h : Askable source query page) :
    Dialogue.Command.parse (":load " ++ source) = .load source := by
  have ht : Text.Trimmed source.toList := by
    have := Text.trimmed_trim source.toList
    rwa [← String.toList_ofList (l := Text.trim source.toList), ← Text.trimmed,
      h.source_trimmed] at this
  have hne : source.toList ≠ [] := mt String.toList_eq_nil_iff.mp h.source_ne_empty
  have hp := Dialogue.Command.parse_load ht hne
  rwa [String.ofList_append, String.ofList_toList, String.ofList_toList] at hp

theorem Askable.parse_page (h : Askable source query page) :
    Dialogue.Command.parse (":page " ++ String.ofList (Numeral.decimal page)) = .page page := by
  have hp := Dialogue.Command.parse_page h.page_pos h.page_lt
  rwa [String.ofList_append, String.ofList_toList] at hp

theorem Askable.unbroken (h : Askable source query page) :
    ∀ line ∈ script source query page, '\n' ∉ line.toList := by
  have hpage : '\n' ∉ Numeral.decimal page := fun hm =>
    absurd (Numeral.isDigit_of_mem_decimal hm) (by decide)
  simp [script, h.source_unbroken, h.query_unbroken, hpage]

theorem Askable.parse_query (h : Askable source query page) :
    Dialogue.Command.parse query = .query (Text.trimmed query) :=
  Dialogue.Command.parse_query h.query_plain

theorem Askable.asks (h : Askable source query page) :
    ∀ line ∈ script source query page, Dialogue.Command.parse line ≠ .quit := by
  simp [script, h.parse_load, h.parse_query, h.parse_page]

/-- The session that the script leaves, with what is written for its last line. -/
theorem dialogue_script (h : Askable source query page) :
    let front := dialogue w c format choices [":load " ++ source, query]
    let last := searched w c source query choices page
    dialogue w c format choices (script source query page) =
      ⟨last, front.output ++ (Dialogue.viewOutput (setting w c format) last.view ++
        Dialogue.prompt (setting w c format)), none⟩ := by
  intro front last
  have hlast : last = front.session.goTo (page - 1) := by
    have hb : ∀ line ∈ [":load " ++ source, query], '\n' ∉ line.toList :=
      fun line hl => h.unbroken line (List.mem_append_left _ hl)
    have hc : Dialogue.commands [":load " ++ source, query] =
        [.load source, .query (Text.trimmed query)] := by
      simp [Dialogue.commands, h.parse_load, h.parse_query]
    rw [dialogue_session w c format choices hb, hc]
    exact congrArg (fun s => s.1.goTo (page - 1)) (Session.search_trimmed _ query).symm
  have hlines : script source query page = [":load " ++ source, query] ++
      [":page " ++ String.ofList (Numeral.decimal page)] := rfl
  rw [hlines, dialogue_concat w c format choices h.unbroken h.asks, h.parse_page]
  simp only [Dialogue.turn, Dialogue.showing, hlast, front]

end

/-! ## What is printed -/

open Json.Value (text?)

/-- What a dialogue prints for a view: its lines, or an object in which a reader finds it. -/
def PrintsView (colors : Bool) (v : View) (text : String) : Format → Prop
  | .human => text = Terminal.viewText colors v
  | .json => ∃ o, Json.ofString? text = some o ∧ View.ofJson? o = some v

/-- What a search prints for a view: its lines between a title and a last line, or an object in
which a reader finds it and the names of what was searched. -/
def PrintsSearch (w : Surroundings) (source query : String) (d : Document) (v : View)
    (text : String) : Format → Prop
  | .human => text = headerLine w d.title ++ Terminal.viewText w.colors v ++
      Terminal.Style.dim.show w.colors ("Searched " ++ toString d.paragraphCount ++
        " paragraph(s) in " ++ w.elapsed) ++ "\n"
  | .json => ∃ o, Json.ofString? text = some o ∧ View.ofJson? o = some v ∧
      (o.field? "source").bind text? = some (Text.trimmed source) ∧
      (o.field? "title").bind text? = some d.title ∧ (o.field? "query").bind text? = some query

theorem printsView_viewOutput (w : Dialogue.Setting) (v : View) :
    PrintsView w.colors v (Dialogue.viewOutput w v) w.format := by
  cases hw : w.format with
  | human => simp only [PrintsView, Dialogue.viewOutput, hw]
  | json =>
    refine ⟨v.toJson, ?_, v.ofJson?_toJson⟩
    simp only [Dialogue.viewOutput, hw]
    exact v.legible_toJson.line.ofString?_append_break

theorem printsSearch_searchOutput (w : Surroundings) (format : Format) (source query : String)
    (d : Document) (s : Session) :
    PrintsSearch w source query d s.view (searchOutput w format source query d s) format := by
  cases format with
  | human => rfl
  | json =>
    let names : List (String × Json.Value) :=
      [("source", .text (Text.trimmed source)), ("title", .text d.title), ("query", .text query)]
    have hlegible : Json.Legible (.record (names ++ s.view.fields)) := by
      apply Json.legible_record
      rw [List.forall_mem_append]
      exact ⟨by simp [names, Json.legible_text], s.view.legible_fields⟩
    -- a reader of the view looks for none of these names
    have hview : ∀ key ∈ View.keys, key ∉ names.map Prod.fst := by
      simp only [names, List.map_cons, List.map_nil]
      decide
    refine ⟨.record (names ++ s.view.fields), (hlegible.block 0).ofString?_append_break,
      View.ofJson?_append hview s.view, ?_⟩
    simp [names, Json.Value.field?_cons, Json.Value.text?_text]

/-- A search that succeeds leaves the session of its three steps, which has a document and shows no
failure. Where a step fails the session says so at the end: after a failed load nothing is there to
be searched. -/
theorem searchOnce_cases (w : Surroundings) (c : Config) (source query : String) (choices : Choices)
    (page : Nat) :
    let last := searched w c source query choices page
    (∃ d, searchOnce w c source query choices page = .ok (d, last) ∧ last.document = some d ∧
      ∀ message, last.status ≠ .failed message) ∨
    ∃ e message, searchOnce w c source query choices page = .error e ∧
      last.status = .failed message := by
  intro last
  cases ha : w.extract c choices.fromFile (Text.trimmed source) with
  | error e =>
    -- the dialogue goes on and searches a session without a document
    right
    have hlast : last = (((sessionFor c choices).fail e).search query).1.goTo (page - 1) := by
      simp only [last, searched, ha]
      rfl
    refine ⟨e, Error.emptyDocument.statusMessage, ?_, ?_⟩
    · rw [searchOnce, ha]
      rfl
    · rw [hlast]
      rfl
  | ok content =>
    let document := Document.ofContent (Text.trimmed source) content
    let loaded := ((sessionFor c choices).load source (.ok content)).1
    have hload : (sessionFor c choices).load source (.ok content) = (loaded, .ok document) := rfl
    rcases loaded.search_cases query with ⟨e, _, hs⟩ | ⟨r, _, hs⟩
    · right
      refine ⟨e, e.statusMessage, ?_, ?_⟩
      · simp only [searchOnce, ha, hload, hs]
        rfl
      · simp only [last, searched, ha, hload, hs]
        rfl
    · left
      refine ⟨document, ?_, ?_, fun message hm => ?_⟩
      · simp only [searchOnce, last, searched, ha, hload, hs]
        rfl
      · simp only [last, searched, ha, hload, hs]
        rfl
      · simp only [last, searched, ha, hload, hs] at hm
        change (if r.findings.length = 0 then Status.noMatches else .found r.findings.length) = _
          at hm
        split at hm <;> cases hm

/-- One search and the dialogue over its script succeed together: the exit code is zero exactly when
the session ends without a failure. Then the search prints the view of that session, and the last
line of the dialogue prints it too. -/
theorem search_agrees_with_dialogue (w : Surroundings) (c : Config) (format : Format)
    (choices : Choices) {source query : String} {page : Nat} (h : Askable source query page) :
    let once := runWith w c ⟨format, .search source query choices page⟩
    let held := dialogue w c format choices (script source query page)
    let front := dialogue w c format choices [":load " ++ source, query]
    (once.exitCode = 0 ↔ ∀ message, held.session.status ≠ .failed message) ∧
    (once.exitCode = 0 → once.errors = "" ∧ ∃ d, held.session.document = some d ∧
      PrintsSearch w source query d held.session.view once.output format) ∧
    (∃ last, held.output = front.output ++ (last ++ Dialogue.prompt (setting w c format)) ∧
      PrintsView w.colors held.session.view last format) ∧
    interactive { w with input := typed (script source query page) } c format none choices =
      { output := greeting w format ++ held.output } := by
  intro once held front
  have hheld := dialogue_script w c format choices h
  have hwritten := interactive_typed w c format choices (congrArg Turn.failure hheld)
  have hsession : held.session = searched w c source query choices page :=
    congrArg Turn.session hheld
  have hlast : ∃ last,
      held.output = front.output ++ (last ++ Dialogue.prompt (setting w c format)) ∧
        PrintsView w.colors held.session.view last format := by
    refine ⟨_, ?_, printsView_viewOutput (setting w c format) held.session.view⟩
    rw [hsession]
    exact congrArg Turn.output hheld
  have hcases := searchOnce_cases w c source query choices page
  rw [← hsession] at hcases
  rcases hcases with ⟨d, hs, hd, hok⟩ | ⟨e, message, hs, hfailed⟩
  · have honce : once = { output := searchOutput w format source query d held.session } := by
      simp only [once, runWith, hs]
    have hcode : once.exitCode = 0 := by rw [honce]
    have hprinted : once.errors = "" ∧ ∃ d, held.session.document = some d ∧
        PrintsSearch w source query d held.session.view once.output format := by
      rw [honce]
      exact ⟨rfl, d, hd, printsSearch_searchOutput w format source query d held.session⟩
    exact ⟨⟨fun _ => hok, fun _ => hcode⟩, fun _ => hprinted, hlast, hwritten⟩
  · have hcode : once.exitCode ≠ 0 := by simp [once, runWith, hs, failed]
    exact ⟨⟨fun h0 => absurd h0 hcode, fun hok => absurd hfailed (hok message)⟩,
      fun h0 => absurd h0 hcode, hlast, hwritten⟩

/-- A file that is there is searched both ways, with one match in both formats, and one that is not
fails both ways. -/
theorem search_agrees_with_dialogue_files :
    let w : Surroundings := {
      environment := ⟨fun _ => none, none⟩
      disk := Files.Disk.ofReadings [("fox.txt", .ok (Text.Utf8.encode "A fox.\n\nA dog.".toList))]
      service := Extraction.unreachable
      input := []
      colors := false
      loadedAt := ""
      elapsed := "1 ms" }
    let choices : Choices := ⟨true, false, false, none⟩
    let once format source := runWith w {} ⟨format, .search source "fox" choices 1⟩
    let held format source := (dialogue w {} format choices (script source "fox" 1)).session
    let view : View := {
      status := "Matches: 1"
      total := 1
      results := [⟨1, "Paragraph 1", "A <mark>fox</mark>.", "fox.txt"⟩]
      pager := some ⟨0, 1, false, false, "Page 1 of 1"⟩ }
    Askable "fox.txt" "fox" 1 ∧ Askable "cat.txt" "fox" 1 ∧
      (held .json "fox.txt").view = view ∧ (held .human "fox.txt").view = view ∧
      (∃ o, Json.ofString? (once .json "fox.txt").output = some o ∧ View.ofJson? o = some view) ∧
      (once .human "fox.txt").output = "fox\nMatches: 1\n\n[Paragraph 1] fox.txt\n    A fox.\n\n" ++
        "Page 1 of 1  ‹ prev | next ›\nSearched 2 paragraph(s) in 1 ms\n" ∧
      (once .json "cat.txt").exitCode = 1 ∧
      ∃ message, (held .json "cat.txt").status = .failed message := by
  intro w choices once held view
  have hfox : Askable "fox.txt" "fox" 1 := by constructor <;> decide
  have hcat : Askable "cat.txt" "fox" 1 := by constructor <;> decide
  have hjson : (held .json "fox.txt").view = view := by decide +kernel
  have hhuman : (held .human "fox.txt").view = view := by decide +kernel
  have hmissing : (once .json "cat.txt").exitCode = 1 := by decide +kernel
  obtain ⟨-, hobject, -⟩ := search_agrees_with_dialogue w {} .json choices hfox
  obtain ⟨-, htext, -⟩ := search_agrees_with_dialogue w {} .human choices hfox
  obtain ⟨hsuccess, -⟩ := search_agrees_with_dialogue w {} .json choices hcat
  refine ⟨hfox, hcat, hjson, hhuman, ?_, ?_, hmissing, ?_⟩
  · obtain ⟨-, _, -, o, hread, hview, -⟩ := hobject (by decide +kernel)
    exact ⟨o, hread, hview.trans (congrArg some hjson)⟩
  · obtain ⟨-, d, hd, hprinted⟩ := htext (by decide +kernel)
    have hdocument : (held .human "fox.txt").document.map (fun d => (d.title, d.paragraphCount)) =
        some ("fox", 2) := by decide +kernel
    replace hd : (held .human "fox.txt").document = some d := hd
    rw [hd, Option.map_some, Option.some.injEq, Prod.mk.injEq] at hdocument
    obtain ⟨htitle, hcount⟩ := hdocument
    replace hprinted : (once .human "fox.txt").output = headerLine w d.title ++
      Terminal.viewText w.colors (held .human "fox.txt").view ++ Terminal.Style.dim.show w.colors
        ("Searched " ++ toString d.paragraphCount ++ " paragraph(s) in " ++ w.elapsed) ++ "\n" :=
      hprinted
    rw [hprinted, htitle, hcount, hhuman]
    decide +kernel
  · by_contra hno
    have h0 : (once .json "cat.txt").exitCode = 0 :=
      hsuccess.mpr fun message hm => hno ⟨message, hm⟩
    rw [hmissing] at h0
    exact Nat.one_ne_zero h0

end CommandLine

end Passage
