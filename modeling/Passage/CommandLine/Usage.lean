import Passage.CommandLine.Arguments

/-!
# Usage

What the program says of itself, and of arguments that it does not run.
-/

namespace Passage.CommandLine

def versionText : String := "docsift 0.3.2\n"

def helpText : String :=
  "Structured search over a web page's text\n\n" ++
  "Usage: docsift [--format human|json] COMMAND\n\n" ++
  "Commands:\n" ++
  "  search SOURCE QUERY   load a page and run one search\n" ++
  "      [--file] [-c|--case-sensitive] [-w|--whole-word] [-p|--page N] [--page-size N]\n" ++
  "  outline SOURCE        load a page and list its paragraphs\n" ++
  "      [--file] [-n|--limit N]\n" ++
  "  interactive [SOURCE]  load a page and search it line by line\n" ++
  "      [--file] [-c|--case-sensitive] [-w|--whole-word] [--page-size N]\n" ++
  "  show-config           show the configuration in force\n" ++
  "  completions SHELL     write a completion script\n" ++
  "  help [COMMAND]        show this text\n\n" ++
  "Options:\n" ++
  "  -h, --help            show this text\n" ++
  "  -V, --version         show the version\n"

/-- What is wrong with arguments that are refused. -/
def Refusal.message : Refusal → String
  | help | version => ""
  | nothingGiven => "no command is given"
  | missingCommand => "a command is missing"
  | unknownCommand => "there is no such command"
  | unknownArgument => "there is no such argument"
  | missingArgument => "an argument is missing"
  | badValue => "an option has no value or an impossible one"
  | unreadableValue => "a value is no number"
  | unexpectedValue => "a flag takes no value"
  | repeated => "an argument is given twice"

/-- What a refusal writes on the standard output, and on the one for errors. -/
def Refusal.report : Refusal → String × String
  | help => (helpText, "")
  | version => (versionText, "")
  | nothingGiven => ("", helpText)
  | r => ("", "error: " ++ r.message ++ "\n\nFor more information, try '--help'.\n")

end Passage.CommandLine
