import Attestation.Command.Program
import Attestation.Registry.Transfer
import Std.Async.DNS
import Std.Async.TCP
import Std.Async.Timer

/-!
The command line: runs the program of a command on the files, the clock and the network at hand.
-/

namespace Attestation.Main

/-- What the system says about a file. -/
def fault : IO.Error → FileFault
  | .noFileOrDirectory _ _ _ => .notFound
  | .inappropriateType _ _ _ => .isDirectory
  | e => .other (toString e)

def attempt {α : Type} (act : IO α) : IO (Except FileFault α) := do
  try return .ok (← act)
  catch e => return .error (fault e)

/-- A file that is secret is closed to others before anything is written to it. -/
def writeFile (path content : String) (secret : Bool) : IO Unit := do
  let handle ← IO.FS.Handle.mk path .write
  if secret then IO.setAccessRights path ⟨⟨true, true, false⟩, {}, {}⟩
  handle.putStr content
  handle.flush

def seed : IO (Octets 32) := do
  return .fit 32 (← IO.getRandomBytes 32).toList

def now : IO Time.Instant := do
  let t ← Std.Time.Timestamp.now
  return ⟨t.toSecondsSinceUnixEpoch.val, (t.toNanosecondsSinceUnixEpoch.val % 1000000000).toNat⟩

/-! ### The network -/

open Std.Async in
/-- All bytes that come before the other side closes the connection. -/
partial def receiveAll (socket : TCP.Socket.Client) (sofar : ByteArray) : Async ByteArray := do
  match ← socket.recv? 65536 with
  | none => return sofar
  | some more => receiveAll socket (sofar ++ more)

open Std.Async in
/-- Sends bytes to a port of a host and gives what comes back. -/
def exchange (host : String) (port : UInt16) (bytes : ByteArray) : Async (List UInt8) := do
  let found ← DNS.getAddrInfo host (toString port)
  let some address := found[0]? | throw (IO.userError "unknown host")
  let socket ← TCP.Socket.Client.mk
  socket.connect <| match address with
    | .v4 a => .v4 ⟨a, port⟩
    | .v6 a => .v6 ⟨a, port⟩
  socket.send bytes
  return (← receiveAll socket .empty).toList

open Std.Async in
/-- The reply to a request, which is nothing once the time is over or if anything fails. -/
def send (timeout : UInt64) (r : Registry.Request) : IO Registry.Reply := do
  match r.url.authority.bind fun a => a.host.map (·, a.port.getD 80) with
  | none => return .nothing
  | some (host, port) =>
    if r.url.scheme != "http".toList then return .nothing
    let name := String.ofList (host.chars.filter fun c => c != '[' && c != ']')
    let answered : Async Registry.Reply := do
      return .ofBytes (← exchange name (.ofNat port) ⟨r.bytes.toArray⟩)
    let late : Async Registry.Reply := do
      sleep (.ofNat (1000 * timeout.toNat))
      return .nothing
    try (Async.race answered late).block
    catch _ => return .nothing

/-! ### Programs -/

def provide : (a : Access) → IO a.Answer
  | .read path => attempt (return (← IO.FS.readBinFile path).toList)
  | .makeDirectory path => attempt (IO.FS.createDirAll path)
  | .write path content secret => attempt (writeFile path content secret)
  | .randomSeed => seed
  | .now => now
  | .send timeout r => send timeout r

/-- One line for a warning. -/
def line (w : Warning) : String :=
  "WARN " ++ w.message ++ String.join (w.fields.map fun (name, v) => " " ++ name ++ "=" ++ v)

/-- Runs a program; `report` says whether warnings are written. -/
def run {α : Type} (report : Bool) : Dialogue Access Access.Answer α → IO α
  | .done a => return a
  | .warn w next => do
    if report then IO.eprintln (line w)
    run report next
  | .ask q next => do
    let a ← provide q
    run report (next a)

/-- The levels that hide warnings. -/
def hidesWarnings (level : String) : Bool := level.toLower == "off" || level.toLower == "error"

end Attestation.Main

open Attestation

def main (args : List String) : IO UInt32 := do
  let known ← Invocation.environmentVariables.mapM fun name => return (name, ← IO.getEnv name)
  let environment (name : String) : Option String := (known.lookup name).join
  match Invocation.parse environment args with
  | .error .help =>
    IO.print Invocation.usage
    return Refusal.help.exitCode
  | .error (.misuse m) =>
    IO.eprintln ("error: " ++ m.message ++ "\n\n" ++ Invocation.usage)
    return (Refusal.misuse m).exitCode
  | .ok i =>
    let ending ← Main.run (!Main.hidesWarnings i.logLevel) (i.command.program environment).run
    match ending with
    | .ok outcome =>
      IO.print outcome.shown
      if let some remark := outcome.remark then IO.eprintln remark
    | .error failure => IO.eprintln ("Error: " ++ failure.label ++ ": " ++ failure.message)
    return Program.exitCode ending
