import Passage.CommandLine.Arguments
import Passage.Dialogue.Turn

/-!
# Invocations

The commands of the program with their arguments. The output format may be chosen
before the command or among its arguments, where the later choice counts.
-/

namespace Passage.CommandLine

inductive Shell
  | bash
  | elvish
  | fish
  | powershell
  | zsh
  deriving DecidableEq, Repr

def Shell.ofName? (name : String) : Option Shell :=
  if name = "bash" then some .bash
  else if name = "elvish" then some .elvish
  else if name = "fish" then some .fish
  else if name = "powershell" then some .powershell
  else if name = "zsh" then some .zsh
  else none

/-- The choices that a search and a dialogue share. -/
structure Choices where
  /-- Sources are text files. -/
  fromFile : Bool
  caseSensitive : Bool
  wholeWord : Bool
  pageSize : Option Nat
  deriving DecidableEq, Repr

inductive Command
  | search (source query : String) (choices : Choices) (page : Nat)
  | outline (source : String) (fromFile : Bool) (limit : Option Nat)
  | interactive (source : Option String) (choices : Choices)
  | showConfig
  | completions (shell : Shell)
  deriving DecidableEq, Repr

structure Invocation where
  format : Format
  command : Command
  deriving DecidableEq, Repr

inductive CommandName
  | search
  | outline
  | interactive
  | showConfig
  | completions
  deriving DecidableEq, Repr

def CommandName.ofText? (s : String) : Option CommandName :=
  if s = "search" then some .search
  else if s = "outline" then some .outline
  else if s = "interactive" then some .interactive
  else if s = "show-config" then some .showConfig
  else if s = "completions" then some .completions
  else none

/-- The switches that every command has. -/
def commonSwitches : List Switch := [
  ⟨"format", none, .takes (.oneOf ["human", "json"])⟩,
  ⟨"help", some 'h', .help⟩,
  ⟨"version", some 'V', .version⟩]

def fileSwitch : Switch := ⟨"file", none, .flag⟩

def choiceSwitches : List Switch := [
  fileSwitch,
  ⟨"case-sensitive", some 'c', .flag⟩,
  ⟨"whole-word", some 'w', .flag⟩,
  ⟨"page-size", none, .takes .number⟩]

def shellNames : List String := ["bash", "elvish", "fish", "powershell", "zsh"]

def CommandName.grammar : CommandName → Grammar
  | search => {
      switches := commonSwitches ++ choiceSwitches ++ [⟨"page", some 'p', .takes .number⟩]
      words := [.text, .text]
      required := 2 }
  | outline => {
      switches := commonSwitches ++ [fileSwitch, ⟨"limit", some 'n', .takes .number⟩]
      words := [.text]
      required := 1 }
  | interactive => { switches := commonSwitches ++ choiceSwitches, words := [.text] }
  | showConfig => { switches := commonSwitches }
  | completions => { switches := commonSwitches, words := [.oneOf shellNames], required := 1 }

def mainGrammar : Grammar := { switches := commonSwitches }

def Reading.choices (r : Reading) : Choices where
  fromFile := r.has "file"
  caseSensitive := r.has "case-sensitive"
  wholeWord := r.has "whole-word"
  pageSize := r.number? "page-size"

def Reading.word (r : Reading) (i : Nat) : String := (r.words[i]?).getD ""

def Reading.format? (r : Reading) : Option Format :=
  (r.value? "format").map fun v => if v = "json" then .json else .human

/-- The command that its checked arguments describe. -/
def CommandName.command (name : CommandName) (r : Reading) : Command :=
  match name with
  | search => .search (r.word 0) (r.word 1) r.choices ((r.number? "page").getD 1)
  | outline => .outline (r.word 0) (r.has "file") (r.number? "limit")
  | interactive => .interactive r.words[0]? r.choices
  | showConfig => .showConfig
  | completions => .completions ((Shell.ofName? (r.word 0)).getD .bash)

/-- A request for help may name one command, or help itself. -/
def helpRefusal : List String → Refusal
  | [] => .help
  | [name] => if name = "help" || (CommandName.ofText? name).isSome then .help else .unknownCommand
  | _ => .unknownCommand

def isHelp (s : String) : Bool := s = "help"

/-- Reads what stands before a command, and then the command. -/
def readFrom (r : Reading) : List String → Except Refusal Invocation
  | [] => r.settle.bind fun t =>
      .error (if t.isUsed then .missingCommand else .nothingGiven)
  | argument :: rest =>
    let isWord := r.onlyWords || !(argument.length ≥ 2 && argument.toList.head? = some '-')
    if isWord && (r.onlyWords || !r.awaitsValue) then
      match CommandName.ofText? argument with
      | some name =>
        if r.onlyWords then .error .unknownArgument
        else
          (name.grammar.read rest).bind fun inner =>
            r.settle.map fun outer =>
              ⟨(inner.format?.or outer.format?).getD .human, name.command inner⟩
      | none =>
        .error (if !isHelp argument then .unknownCommand
          else if r.onlyWords then .unknownArgument
          else helpRefusal rest)
    else (r.step mainGrammar argument).bind fun t => readFrom t rest

/-- Reads the arguments of the program. -/
def parse (arguments : List String) : Except Refusal Invocation := readFrom {} arguments

end Passage.CommandLine
