import Passage.Numeral

/-!
# Command-line arguments

What may stand behind a command's name: options in long and short spelling, flags
that may be written together, and words. An option's value follows it or is attached
to it; behind two hyphens everything is a word. A value is checked when the next
argument that counts is met, or at the end.
-/

namespace Passage.CommandLine

/-- Why arguments are not run. The first two are requests and no faults. -/
inductive Refusal
  | help
  | version
  | nothingGiven
  | missingCommand
  | unknownCommand
  | unknownArgument
  | missingArgument
  /-- A value is missing, or not among the possible ones. -/
  | badValue
  /-- A value does not read as what it should be. -/
  | unreadableValue
  /-- A flag has a value attached. -/
  | unexpectedValue
  | repeated
  deriving DecidableEq, Repr

/-- Requests succeed; faults are errors of usage. -/
def Refusal.exitCode : Refusal → Nat
  | help | version => 0
  | _ => 2

/-- The values an argument takes. -/
inductive ValueKind
  | text
  | number
  | oneOf (values : List String)
  deriving DecidableEq, Repr

def ValueKind.check (k : ValueKind) (v : String) : Except Refusal Unit :=
  match k with
  | text => .ok ()
  | number => if (Numeral.read? v.toList).isSome then .ok () else .error .unreadableValue
  | oneOf values => if v ∈ values then .ok () else .error .badValue

inductive Effect
  | help
  | version
  | flag
  | takes (kind : ValueKind)
  deriving DecidableEq, Repr

structure Switch where
  long : String
  short : Option Char := none
  effect : Effect
  deriving DecidableEq, Repr

/-- What a command accepts: switches, and words in order, the first `required` of them needed. -/
structure Grammar where
  switches : List Switch
  words : List ValueKind := []
  required : Nat := 0
  deriving DecidableEq, Repr

/-- An argument that is not checked yet. -/
inductive Pending
  | nothing
  /-- An option, and its value once it is there. -/
  | option (name : String) (kind : ValueKind) (value : Option String)
  | word (kind : ValueKind) (value : String)
  deriving DecidableEq, Repr

/-- The arguments that have been read. -/
structure Reading where
  flags : List String := []
  options : List (String × String) := []
  words : List String := []
  pending : Pending := .nothing
  /-- Only words are left. -/
  onlyWords : Bool := false
  deriving DecidableEq, Repr

namespace Reading

def value? (r : Reading) (name : String) : Option String :=
  (r.options.find? (·.1 == name)).map (·.2)

def number? (r : Reading) (name : String) : Option Nat :=
  (r.value? name).bind fun v => Numeral.read? v.toList

def has (r : Reading) (flag : String) : Bool := r.flags.contains flag

/-- Anything was given, checked or not. -/
def isUsed (r : Reading) : Bool :=
  !r.flags.isEmpty || !r.options.isEmpty || !r.words.isEmpty

def awaitsValue (r : Reading) : Bool :=
  match r.pending with
  | .option _ _ none => true
  | _ => false

def setOption (r : Reading) (name : String) (kind : ValueKind) (v : String) :
    Except Refusal Reading :=
  if (r.value? name).isSome then .error .repeated
  else (kind.check v).map fun _ => { r with options := r.options ++ [(name, v)] }

/-- Checks the argument that is pending. -/
def settle (r : Reading) : Except Refusal Reading :=
  let rest := { r with pending := .nothing }
  match r.pending with
  | .nothing => .ok rest
  | .option _ _ none => .error .badValue
  | .option name kind (some v) => rest.setOption name kind v
  | .word kind v => (kind.check v).map fun _ => { rest with words := r.words ++ [v] }

/-- A switch with the value attached to it, if there is one. -/
def throw (r : Reading) (s : Switch) (attached : Option String) : Except Refusal Reading :=
  match s.effect, attached with
  | .takes kind, some v => r.settle.bind fun t => t.setOption s.long kind v
  | .takes kind, none => r.settle.map fun t => { t with pending := .option s.long kind none }
  | _, some _ => .error .unexpectedValue
  | .help, none => r.settle.bind fun _ => .error .help
  | .version, none => r.settle.bind fun _ => .error .version
  | .flag, none =>
    r.settle.bind fun t =>
      if t.has s.long then .error .repeated else .ok { t with flags := t.flags ++ [s.long] }

/-- Short switches written together; what follows one that takes a value is its value. -/
def throwShort (g : Grammar) (r : Reading) : List Char → Except Refusal Reading
  | [] => .ok r
  | c :: rest =>
    match g.switches.find? (·.short == some c) with
    | none => .error .unknownArgument
    | some s =>
      match s.effect, rest with
      | .takes _, [] => r.throw s none
      | .takes _, '=' :: v => r.throw s (some (String.ofList v))
      | .takes _, v => r.throw s (some (String.ofList v))
      | _, _ => (r.throw s none).bind fun t => throwShort g t rest

/-- A long switch, without its two hyphens. -/
def throwLong (g : Grammar) (r : Reading) (s : List Char) : Except Refusal Reading :=
  let name := String.ofList (s.takeWhile (· ≠ '='))
  let attached := match s.dropWhile (· ≠ '=') with
    | _ :: v => some (String.ofList v)
    | [] => none
  match g.switches.find? (·.long == name) with
  | none => .error .unknownArgument
  | some switch => r.throw switch attached

/-- The number of words, the pending one included. -/
def wordCount (r : Reading) : Nat :=
  match r.pending with
  | .word _ _ => r.words.length + 1
  | _ => r.words.length

def addWord (g : Grammar) (r : Reading) (word : String) : Except Refusal Reading :=
  match g.words[r.wordCount]? with
  | none => .error .unknownArgument
  | some kind => r.settle.map fun t => { t with pending := .word kind word }

/-- Reads one argument. -/
def step (g : Grammar) (r : Reading) (argument : String) : Except Refusal Reading :=
  if r.onlyWords then r.addWord g argument
  else
    match argument.toList with
    | ['-', '-'] => .ok { r with onlyWords := true }
    | '-' :: '-' :: s => r.throwLong g s
    | '-' :: c :: s => r.throwShort g (c :: s)
    | _ =>
      match r.pending with
      | .option name kind none => .ok { r with pending := .option name kind (some argument) }
      | _ => r.addWord g argument

/-- Checks that nothing is missing. -/
def finish (g : Grammar) (r : Reading) : Except Refusal Reading :=
  r.settle.bind fun t => if t.words.length < g.required then .error .missingArgument else .ok t

end Reading

/-- Reads the arguments of a command. -/
def Grammar.read (g : Grammar) (arguments : List String) : Except Refusal Reading :=
  (arguments.foldlM (Reading.step g) {}).bind (Reading.finish g)

end Passage.CommandLine
