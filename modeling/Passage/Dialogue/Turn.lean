import Passage.Dialogue.Command
import Passage.Json.Views
import Passage.Terminal.Views

/-!
# Turns of a dialogue

In each turn a command changes the session and something is written: the view
after everything that concerns it, and a notice after everything else. With JSON a
turn writes one line. A failure is shown and the dialogue goes on, unless it is one
that leaves the session unusable.
-/

namespace Passage

/-- How output is written. -/
inductive Format
  | human
  | json
  deriving DecidableEq, Repr

namespace Dialogue

open Json (Value)
open Terminal

/-- How the dialogue writes, and how long outlines are. -/
structure Setting where
  format : Format
  colors : Bool
  outlineLimit : Nat
  previewChars : Nat

def helpText : String :=
  "Type a query to search the loaded page:\n" ++
  "  word            paragraphs containing word\n" ++
  "  \"exact phrase\"  paragraphs containing the phrase\n" ++
  "  -word           exclude paragraphs containing word\n" ++
  "  pre*            words starting with pre\n" ++
  "  a OR b          either a or b\n" ++
  "Commands:\n" ++
  "  :next, :prev    move between result pages\n" ++
  "  :page N         jump to page N\n" ++
  "  :case           toggle case-sensitive matching\n" ++
  "  :word           toggle whole-word matching\n" ++
  "  :load SOURCE    load another page\n" ++
  "  :outline        list the loaded page's paragraphs\n" ++
  "  :help           show this help\n" ++
  "  :quit           leave"

/-- What a turn leaves behind; `failure` is set if the dialogue cannot go on. -/
structure Turn where
  session : Session
  output : String
  failure : Option String := none
  deriving DecidableEq, Repr

def viewOutput (w : Setting) (v : View) : String :=
  match w.format with
  | .human => viewText w.colors v
  | .json => v.toJson.line ++ "\n"

def noticeOutput (w : Setting) (message styled : String) : String :=
  match w.format with
  | .human => styled ++ "\n"
  | .json => (Value.record [("notice", .text message)]).line ++ "\n"

def showing (w : Setting) (s : Session) : Turn := ⟨s, viewOutput w s.view, none⟩

/-- The turn after an operation: the view, unless its failure is not recoverable. -/
def settled {α : Type} (w : Setting) (s : Session) : Except Error α → Turn
  | .ok _ => showing w s
  | .error e => if e.isRecoverable then showing w s else ⟨s, "", some e.report⟩

def loadTurn (w : Setting) (s : Session) (source : String) (answer : Except Error Content) : Turn :=
  let (after, result) := s.load source answer
  let turn := settled w after result
  match w.format with
  | .json => turn
  | .human =>
    let heading := match result with
      | .ok d =>
        Style.title.show w.colors d.title ++ "\n" ++ Style.dim.show w.colors d.metaLine ++ "\n"
      | .error _ => ""
    let progress := Style.dim.show w.colors Status.loading.text ++ "\n"
    { turn with output := progress ++ heading ++ turn.output }

def onOff (flag : Bool) : String := if flag then "on" else "off"

def optionTurn (w : Setting) (s : Session) (options : Match.Options) (message : String) : Turn :=
  ⟨s.setOptions options, noticeOutput w message message, none⟩

def outlineOutput (w : Setting) (s : Session) : String :=
  match s.document with
  | some d =>
    let outline := d.outline w.outlineLimit w.previewChars
    match w.format with
    | .human => outlineText w.colors outline
    | .json => (outlineJson outline).line ++ "\n"
  | none =>
    let message := Error.emptyDocument.statusMessage
    noticeOutput w message (Style.warning.show w.colors message)

def unknownOutput (w : Setting) (text : String) : String :=
  let hint := " " ++ text ++ " (type :help for commands)"
  noticeOutput w ("Unknown command:" ++ hint)
    (Style.warning.show w.colors "Unknown command:" ++ hint)

/-- Takes one turn; `extract` answers for the sources at that time. -/
def turn (w : Setting) (extract : String → Except Error Content) (s : Session) : Command → Turn
  | .query text => let (after, result) := s.search text; settled w after result
  | .next => showing w s.next
  | .prev => showing w s.prev
  | .page number => showing w (s.goTo (number - 1))
  | .toggleCase =>
    let flag := !s.options.caseSensitive
    optionTurn w s { s.options with caseSensitive := flag } ("Case sensitive: " ++ onOff flag)
  | .toggleWord =>
    let flag := !s.options.wholeWord
    optionTurn w s { s.options with wholeWord := flag } ("Whole word: " ++ onOff flag)
  | .load source => loadTurn w s source (extract (Text.trimmed source))
  | .outline => ⟨s, outlineOutput w s, none⟩
  | .help => ⟨s, noticeOutput w helpText helpText, none⟩
  | .quit => ⟨s, "", none⟩
  | .unknown text => ⟨s, unknownOutput w text, none⟩

def prompt (w : Setting) : String :=
  match w.format with
  | .human => Style.label.show w.colors ">" ++ " "
  | .json => ""

/-- A line that is no text ends the dialogue. -/
def unreadableLine : String := "stream did not contain valid UTF-8"

/-- Answers lines until they end or one of them quits. `extract` tells what the sources answer at
each line, the first one having number `i`. -/
def turns (w : Setting) (extract : Nat → String → Except Error Content) (i : Nat) (s : Session) :
    List (Option String) → Turn
  | [] => ⟨s, "", none⟩
  | none :: _ => ⟨s, "", some unreadableLine⟩
  | some line :: rest =>
    match Command.parse line with
    | .quit => ⟨s, "", none⟩
    | c =>
      let t := turn w (extract i) s c
      if t.failure.isSome then t
      else
        let more := turns w extract (i + 1) t.session rest
        { more with output := t.output ++ prompt w ++ more.output }

/-- Holds a dialogue over the lines of an input. -/
def run (w : Setting) (extract : Nat → String → Except Error Content) (s : Session)
    (lines : List (Option String)) : Turn :=
  let t := turns w extract 0 s lines
  { t with output := prompt w ++ t.output }

/-- The lines of an input, each a text or `none`. -/
def inputLines (bytes : List UInt8) : List (Option String) :=
  (Text.byteLines bytes).map Text.Utf8.text?

end Dialogue

end Passage
