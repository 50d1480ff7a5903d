import Passage.Config.Toml
import Passage.Files.Disk
import Passage.Numeral

/-!
# Loading the configuration

Environment variables come before the configuration file, and the file before the
defaults. One file is read: the one that a variable names, else the user's own, else
the one in the working directory. A variable that is malformed counts as unset.
-/

namespace Passage

/-- The variables of the environment, and the home directory that the user's account has. -/
structure Environment where
  get? : String → Option String
  accountHome : Option String

namespace Config

open Files (Disk)

/-- The variables that matter. -/
def variableNames : List String :=
  ["HOME", "XDG_CONFIG_HOME", "DOCSIFT_CONFIG_DIR", "DOCSIFT_CONFIG", "DOCSIFT_ENDPOINT",
    "DOCSIFT_TIMEOUT_SEC", "DOCSIFT_PAGE_SIZE", "DOCSIFT_CASE_SENSITIVE", "DOCSIFT_WHOLE_WORD",
    "DOCSIFT_MAX_QUERY_LENGTH"]

/-! ## Places -/

def homeDirectory (env : Environment) : String :=
  match env.get? "HOME" with
  | some home => if home = "" then env.accountHome.getD "." else home
  | none => env.accountHome.getD "."

def join (directory name : String) : String :=
  String.ofList (Files.Path.append directory.toList name.toList)

/-- The directory of the user's configuration. -/
def directory (env : Environment) : String :=
  match env.get? "DOCSIFT_CONFIG_DIR" with
  | some dir => dir
  | none =>
    match env.get? "XDG_CONFIG_HOME" with
    | some dir => join dir "docsift"
    | none => join (join (homeDirectory env) ".config") "docsift"

def userFile (env : Environment) : String := join (directory env) "config.toml"

def localFile : String := "docsift.toml"

/-- The configuration file, if there is one. A file that a variable names need not exist. -/
def file? (env : Environment) (disk : Disk) : Option String :=
  match env.get? "DOCSIFT_CONFIG" with
  | some path => some path
  | none =>
    if disk.has (userFile env) then some (userFile env)
    else if disk.has localFile then some localFile
    else none

/-- The files that may be the configuration file, each of them at most once. -/
def places (env : Environment) : List String :=
  match env.get? "DOCSIFT_CONFIG" with
  | some path => [path]
  | none => [userFile env, localFile]

/-! ## Layers -/

/-- Reads a configuration file. -/
def ofFile (disk : Disk) (path : String) : Except Error Config :=
  match disk.text path with
  | .error e => .error (.configuration ("Failed to read config file: " ++ e.message))
  | .ok text => ofToml text

def flagText? (s : String) : Option Bool :=
  let word := String.ofList ((Text.trim s.toList).map Char.toLower)
  if word ∈ ["1", "true", "yes", "on"] then some true
  else if word ∈ ["0", "false", "no", "off"] then some false
  else none

/-- The value of a variable, or the one below it where the variable is unset or malformed. -/
def override {α : Type} (env : Environment) (name : String) (read : String → Option α) (below : α) :
    α :=
  ((env.get? name).bind read).getD below

def numberText? (s : String) : Option Nat := Numeral.read? s.toList

/-- Puts the environment's settings over those of a configuration. -/
def withEnvironment (env : Environment) (c : Config) : Config :=
  { c with
    endpoint := override env "DOCSIFT_ENDPOINT" some c.endpoint
    timeoutSeconds := override env "DOCSIFT_TIMEOUT_SEC" numberText? c.timeoutSeconds
    pageSize := override env "DOCSIFT_PAGE_SIZE" numberText? c.pageSize
    caseSensitive := override env "DOCSIFT_CASE_SENSITIVE" flagText? c.caseSensitive
    wholeWord := override env "DOCSIFT_WHOLE_WORD" flagText? c.wholeWord
    maxQueryLength := override env "DOCSIFT_MAX_QUERY_LENGTH" numberText? c.maxQueryLength }

/-- The configuration under which the program runs. -/
def load (env : Environment) (disk : Disk) : Except Error Config := do
  let base ← match file? env disk with
    | some path => ofFile disk path
    | none => .ok {}
  let c := withEnvironment env base
  c.validate
  return c

end Config

end Passage
