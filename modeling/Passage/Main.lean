import Passage.CommandLine.Run
import Passage.CommandLine.Usage
import Passage.Extraction.Exchange
import Passage.Numeral.Fixed
import Std.Async.DNS
import Std.Async.TCP
import Std.Async.Timer
import Std.Time.Format

/-!
# The program

The command line around the pure commands: it looks up variables, reads the files
that a command may need, sends the request of a page, and writes what comes out.
A dialogue is held line by line, with the same turns as the pure one. Services are
reached without encryption only.
-/

namespace Passage.Program

open Std.Async
open CommandLine (Surroundings Invocation)

/-! ## Files -/

def faultText (code : Nat) (details : String) : String :=
  details.capitalize ++ " (os error " ++ toString code ++ ")"

/-- The fault with a code of the system, which some calls give as a negative number. -/
def faultOfCode (code : UInt32) (details : String) : Files.Fault :=
  match code.toInt32.toInt.natAbs with
  | 2 => .missing
  | 20 => .notDirectory
  | 21 => .isDirectory
  | 36 => .nameTooLong
  | n => .other (faultText n details)

def faultOf : IO.Error → Files.Fault
  | .noFileOrDirectory _ code details => faultOfCode code details
  | .inappropriateType _ code details => faultOfCode code details
  | .invalidArgument _ code details => faultOfCode code details
  | .permissionDenied _ code details => faultOfCode code details
  | .otherError code details => faultOfCode code details
  | e => .other (toString e)

def readPath (path : String) : IO (Except Files.Fault (List UInt8)) := do
  if path.contains '\x00' then return .error .nulInName
  if path = "" then return .error .missing
  try
    let bytes ← IO.FS.readBinFile path
    return .ok bytes.toList
  catch e => return .error (faultOf e)

/-- The disk as far as these paths tell. -/
def readDisk (paths : List String) : IO Files.Disk := do
  let readings ← paths.mapM fun path => do return (path, ← readPath path)
  return Files.Disk.ofReadings readings

/-! ## The service -/

/-- All that a connection still brings. -/
partial def receive (client : TCP.Socket.Client) (got : ByteArray) : Async ByteArray := do
  match ← client.recv? 65536 with
  | some bytes => receive client (got ++ bytes)
  | none => return got

def socketAddress (address : Std.Net.IPAddr) (port : UInt16) : Std.Net.SocketAddress :=
  match address with
  | .v4 a => .v4 ⟨a, port⟩
  | .v6 a => .v6 ⟨a, port⟩

def plainPort : Nat := 80

def send (url : Url) : Async ByteArray := do
  let host := ((url.hostText?.getD "").replace "[" "").replace "]" ""
  let port := url.port.getD plainPort
  let addresses ← DNS.getAddrInfo host (toString port)
  match addresses[0]? with
  | none => throw (IO.userError "the host has no address")
  | some address =>
    let client ← TCP.Socket.Client.mk
    client.connect (socketAddress address port.toUInt16)
    client.sendAll #[(Extraction.requestText url).toUTF8]
    receive client ByteArray.empty

def expire (seconds : Nat) : Async ByteArray := do
  sleep (Std.Time.Millisecond.Offset.ofNat (1000 * seconds))
  throw (IO.userError "the service did not answer in time")

/-- Sends a request and waits for the reply. -/
def ask (seconds : Nat) (request : String) : IO (Except String Extraction.Reply) := do
  match Url.parse request.toList with
  | .error e => return .error e.message
  | .ok url =>
    if url.scheme ≠ "http".toList then return .error "encrypted connections are not supported"
    try
      let bytes ← (Async.race (send url) (expire seconds)).block
      match Extraction.Reply.ofBytes? bytes.toList with
      | some reply => return .ok reply
      | none => return .error "the reply is incomplete"
    catch e => return .error (toString e)

/-- The service as far as the request for this source tells. -/
def askFor (c : Config) (source : String) : IO Extraction.Service := do
  match Extraction.request c.endpoint source with
  | .error _ => return Extraction.unreachable
  | .ok request =>
    let reply ← ask c.timeoutSeconds request
    return fun r => if r = request then reply else Extraction.unreachable r

/-! ## Surroundings -/

def readEnvironment : IO Environment := do
  let values ← Config.variableNames.mapM fun name => do return (name, ← IO.getEnv name)
  return { get? := fun name => (values.find? (·.1 == name)).bind (·.2), accountHome := none }

def readColors : IO Bool := do
  let terminal ← (← IO.getStdout).isTty
  return Terminal.wantsColors (← IO.getEnv "CLICOLOR_FORCE") (← IO.getEnv "NO_COLOR")
    (← IO.getEnv "CLICOLOR") terminal

def now : IO String := do
  let time ← Std.Time.Timestamp.now
  return (Std.Time.DateTime.ofTimestampWithZone time Std.Time.TimeZone.UTC).toISO8601String

/-- What a command can see before it has looked at its source. -/
def survey : IO Surroundings := do
  let environment ← readEnvironment
  return {
    environment
    disk := ← readDisk (Config.places environment)
    service := Extraction.unreachable
    input := []
    colors := ← readColors
    loadedAt := ← now
    elapsed := "" }

/-- Looks at a source as well. -/
def withSource (w : Surroundings) (c : Config) (fromFile : Bool) (source : String) :
    IO Surroundings := do
  let path := Text.trimmed source
  if fromFile then
    return { w with disk := ← readDisk (path :: Config.places w.environment) }
  else return { w with service := ← askFor c path }

/-! ## Commands -/

def write (text : String) : IO Unit := do
  let out ← IO.getStdout
  out.putStr text
  out.flush

def finish (o : CommandLine.Outcome) : IO UInt32 := do
  write o.output
  IO.eprint o.errors
  return o.exitCode.toUInt32

/-- Runs an invocation, twice so that the second run can tell how long the first one took. -/
def runTimed (w : Surroundings) (i : Invocation) : IO UInt32 := do
  let start ← IO.monoNanosNow
  let first ← IO.lazyPure fun _ => CommandLine.run w i
  let stop ← IO.monoNanosNow
  if first.exitCode ≠ 0 then finish first
  else
    let seconds := (stop - start).toFloat / 1000000000
    finish (CommandLine.run { w with elapsed := Numeral.duration seconds } i)

/-- The bytes of the input up to the end of a line, `got` being read already, last one first. -/
partial def lineBytes (input : IO.FS.Stream) (got : List UInt8) : IO (List UInt8) := do
  match (← input.read 1).toList with
  | [] => return got.reverse
  | b :: _ => if b = 10 then return (b :: got).reverse else lineBytes input (b :: got)

/-- The next line of the input; `none` at its end, and `some none` if it is no text. -/
def nextLine : IO (Option (Option String)) := do
  return (Dialogue.inputLines (← lineBytes (← IO.getStdin) [])).head?

/-- Takes turns until the input ends, a line quits, or the dialogue cannot go on. -/
partial def converse (w : Surroundings) (c : Config) (setting : Dialogue.Setting) (fromFile : Bool)
    (s : Session) : IO UInt32 := do
  match ← nextLine with
  | none => return 0
  | some none => finish (CommandLine.failed w "" Dialogue.unreadableLine)
  | some (some line) =>
    match Dialogue.Command.parse line with
    | .quit => return 0
    | command =>
      let seen ← match command with
        | .load source => withSource w c fromFile source
        | _ => pure w
      let t := Dialogue.turn setting (seen.extract c fromFile) s command
      match t.failure with
      | some reason => finish (CommandLine.failed w t.output reason)
      | none =>
        write (t.output ++ Dialogue.prompt setting)
        converse w c setting fromFile t.session

def interact (w : Surroundings) (c : Config) (format : Format) (source : Option String)
    (choices : CommandLine.Choices) : IO UInt32 := do
  let setting := CommandLine.setting w c format
  let seen ← match source with
    | some s => withSource w c choices.fromFile s
    | none => pure w
  let first := CommandLine.opening seen c format source choices
  match first.failure with
  | some reason => finish (CommandLine.failed w first.output reason)
  | none =>
    write (first.output ++ Dialogue.prompt setting)
    converse w c setting choices.fromFile first.session

def runInvocation (i : Invocation) : IO UInt32 := do
  let w ← survey
  match Config.load w.environment w.disk, i.command with
  | .ok c, .search source _ choices _ => runTimed (← withSource w c choices.fromFile source) i
  | .ok c, .outline source fromFile _ =>
    finish (CommandLine.run (← withSource w c fromFile source) i)
  | .ok c, .interactive source choices => interact w c i.format source choices
  | _, _ => finish (CommandLine.run w i)

end Passage.Program

def main (arguments : List String) : IO UInt32 := do
  match Passage.CommandLine.parse arguments with
  | .ok i => Passage.Program.runInvocation i
  | .error r =>
    Passage.Program.write r.report.1
    IO.eprint r.report.2
    return r.exitCode.toUInt32
