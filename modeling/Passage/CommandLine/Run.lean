import Passage.CommandLine.Invocation
import Passage.Config.Load
import Passage.Extraction.Service

/-!
# Running commands

What each command writes, given the environment, the files and the extraction
service. A failure is reported in one line and ends with exit code one; what was
written before it stays written.
-/

namespace Passage.CommandLine

open Json (Value)
open Terminal

/-- All that a command depends on besides its arguments. -/
structure Surroundings where
  environment : Environment
  disk : Files.Disk
  service : Extraction.Service
  input : List UInt8
  colors : Bool
  /-- The time of loading, as outlines show it. -/
  loadedAt : String
  /-- The time that a search took, as it is shown. -/
  elapsed : String

structure Outcome where
  exitCode : Nat := 0
  output : String := ""
  errors : String := ""
  deriving DecidableEq, Repr

/-- The outcome of a failure after some output. -/
def failed (w : Surroundings) (output reason : String) : Outcome :=
  ⟨1, output, Style.failure.show w.colors "Error" ++ ": " ++ reason ++ "\n"⟩

/-- What a source gives: a file, or a page through the service. -/
def Surroundings.extract (w : Surroundings) (c : Config) (fromFile : Bool) (source : String) :
    Except Error Content :=
  if fromFile then w.disk.extract source
  else Extraction.extract c.endpoint w.service source

/-- A session by the configuration, in which switches only turn options on. -/
def sessionFor (c : Config) (choices : Choices) : Session :=
  Session.start (choices.pageSize.getD c.pageSize) c.maxQueryLength
    ⟨c.caseSensitive || choices.caseSensitive, c.wholeWord || choices.wholeWord⟩

def headerLine (w : Surroundings) (title : String) : String :=
  Style.title.show w.colors title ++ "\n"

/-- Loads a source and searches it once. -/
def searchOnce (w : Surroundings) (c : Config) (source query : String) (choices : Choices)
    (page : Nat) : Except Error (Document × Session) := do
  let start := sessionFor c choices
  let (loaded, answer) := start.load source (w.extract c choices.fromFile (Text.trimmed source))
  let document ← answer
  let (found, count) := loaded.search query
  let _ ← count
  return (document, found.goTo (page - 1))

def searchOutput (w : Surroundings) (format : Format) (source query : String) (d : Document)
    (s : Session) : String :=
  match format with
  | .human =>
    headerLine w d.title ++ viewText w.colors s.view ++
      Style.dim.show w.colors ("Searched " ++ toString d.paragraphCount ++ " paragraph(s) in " ++
        w.elapsed) ++ "\n"
  | .json =>
    (Value.record ([("source", .text (Text.trimmed source)), ("title", .text d.title),
      ("query", .text query)] ++ s.view.fields)).block ++ "\n"

def outlineOutcome (w : Surroundings) (format : Format) (d : Document)
    (outline : List OutlineEntry) : Outcome :=
  match format with
  | .human =>
    let left := d.paragraphCount - outline.length
    let more :=
      if left = 0 then ""
      else Style.dim.show w.colors ("… " ++ toString left ++ " more paragraph(s)") ++ "\n"
    { output := headerLine w d.title ++ Style.dim.show w.colors d.metaLine ++ "\n\n" ++
        outlineText w.colors outline ++ more
      errors :=
        if d.isEmpty then
          Style.warning.show w.colors "Warning" ++ ": The page has no readable paragraphs\n"
        else "" }
  | .json =>
    { output := (Value.record [("source", .text d.source), ("title", .text d.title),
        ("meta", .text d.metaLine), ("paragraph_count", .nat d.paragraphCount),
        ("char_count", .nat d.charCount), ("loaded_at", .text w.loadedAt),
        ("outline", outlineJson outline)]).block ++ "\n" }

def setting (w : Surroundings) (c : Config) (format : Format) : Dialogue.Setting :=
  ⟨format, w.colors, c.outlineLimit, c.previewChars⟩

def greeting (w : Surroundings) (format : Format) : String :=
  match format with
  | .human => Style.dim.show w.colors "Type :help for commands, :quit to leave." ++ "\n"
  | .json => ""

/-- The greeting and the load of the first source, before any line is read. -/
def opening (w : Surroundings) (c : Config) (format : Format) (source : Option String)
    (choices : Choices) : Dialogue.Turn :=
  let start := sessionFor c choices
  let turn : Dialogue.Turn := match source with
    | none => ⟨start, "", none⟩
    | some s =>
      Dialogue.loadTurn (setting w c format) start s
        (w.extract c choices.fromFile (Text.trimmed s))
  { turn with output := greeting w format ++ turn.output }

def interactive (w : Surroundings) (c : Config) (format : Format) (source : Option String)
    (choices : Choices) : Outcome :=
  let first := opening w c format source choices
  match first.failure with
  | some reason => failed w first.output reason
  | none =>
    let rest := Dialogue.run (setting w c format) (fun _ => w.extract c choices.fromFile)
      first.session (Dialogue.inputLines w.input)
    match rest.failure with
    | some reason => failed w (first.output ++ rest.output) reason
    | none => { output := first.output ++ rest.output }

def showConfig (w : Surroundings) (c : Config) (format : Format) : Outcome :=
  let file := Config.file? w.environment w.disk
  match format with
  | .human =>
    let heading := match file with
      | some path => "# config_file: " ++ path ++ "\n"
      | none => "# no config file found, using defaults\n"
    match c.toml? with
    | some text => { output := heading ++ text }
    | none => failed w heading Toml.outOfRange
  | .json =>
    let path := match file with
      | some p => [("config_file", Value.text p)]
      | none => []
    { output := (Value.record (path ++ c.jsonFields)).block ++ "\n" }

/-- A script that makes a shell complete the names of the commands. -/
def completionScript (shell : Shell) : String :=
  let names := "search outline interactive show-config completions help"
  match shell with
  | .bash => "complete -W \"" ++ names ++ "\" docsift\n"
  | .zsh => "#compdef docsift\ncompadd " ++ names ++ "\n"
  | .fish => "complete -c docsift -f -a \"" ++ names ++ "\"\n"
  | .elvish => "set edit:completion:arg-completer[docsift] = \x7b|@a| put " ++ names ++ "\x7d\n"
  | .powershell =>
    "Register-ArgumentCompleter -Native -CommandName docsift -ScriptBlock \x7b \"" ++ names ++
      "\".Split(\" \") \x7d\n"

/-- Runs a command under a configuration. -/
def runWith (w : Surroundings) (c : Config) (i : Invocation) : Outcome :=
  match i.command with
  | .search source query choices page =>
    match searchOnce w c source query choices page with
    | .error e => failed w "" e.report
    | .ok (d, s) => { output := searchOutput w i.format source query d s }
  | .outline source fromFile limit =>
    let choices : Choices := ⟨fromFile, false, false, none⟩
    match ((sessionFor c choices).load source (w.extract c fromFile (Text.trimmed source))).2 with
    | .error e => failed w "" e.report
    | .ok d => outlineOutcome w i.format d (d.outline (limit.getD c.outlineLimit) c.previewChars)
  | .interactive source choices => interactive w c i.format source choices
  | .showConfig => showConfig w c i.format
  | .completions shell => { output := completionScript shell }

/-- Runs an invocation. Scripts for completion need no configuration. -/
def run (w : Surroundings) (i : Invocation) : Outcome :=
  match i.command with
  | .completions shell => { output := completionScript shell }
  | _ =>
    match Config.load w.environment w.disk with
    | .error e => failed w "" e.message
    | .ok c => runWith w c i

end Passage.CommandLine
