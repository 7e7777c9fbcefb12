/-
The program on the command line.

This is the outer layer: it reads the configuration file and the environment variables that
a run may need, lends its sockets to one client for all GETs of the run, and writes what the
run comes to.  A secure URL is not asked for, since there is no encryption here; a GET of it
finds no answer.
-/
import HttpGet.Client
import HttpGet.Run
import Std.Async.DNS
import Std.Async.TCP
import Std.Time

namespace HttpGet.Program

open Std.Async

/-- Read a configuration file. -/
def readFile (path : String) : IO (Except ReadFailure String) := do
  try
    let bytes ← IO.FS.readBinFile path
    match Utf8.decode? bytes.toList with
    | some text => return .ok text
    | none => return .error .notUtf8
  catch
    | .noFileOrDirectory .. => return .error .missing
    | .permissionDenied .. => return .error .denied
    | .invalidArgument .. => return .error .nameTooLong
    | .inappropriateType none .. => return .error .isDirectory
    | .inappropriateType (some _) .. => return .error .notDirectory
    | e => return .error (.refused (toString e))

/-- The environment variables of some names. -/
def readEnvironment (names : List String) : IO Environment := do
  let vars ← names.filterMapM fun name => do return (← IO.getEnv name).map (name, ·)
  return Environment.ofList vars

/-- The bytes that a socket brings until a response has come to its own end or the socket is
closed, and whether it is. -/
partial def receive (socket : TCP.Socket.Client) (received : ByteArray) :
    IO (List UInt8 × Bool) := do
  let bytes := received.toList
  if (Wire.message? bytes).any (·.route.isDelimited) then return (bytes, false)
  match ← (socket.recv? 65536).block with
  | some more => receive socket (received ++ more)
  | none => return (bytes, true)

/-- Where a socket at an address leads. -/
def socketAddress (port : UInt16) : Std.Net.IPAddr → Std.Net.SocketAddress
  | .v4 addr => .v4 ⟨addr, port⟩
  | .v6 addr => .v6 ⟨addr, port⟩

/-- A socket to the first of some addresses that can be reached. -/
def connectFirst (port : UInt16) : List Std.Net.IPAddr → IO (Option TCP.Socket.Client)
  | [] => return none
  | address :: addresses => do
    try
      let socket ← TCP.Socket.Client.mk
      (socket.connect (socketAddress port address)).block
      return some socket
    catch _ => connectFirst port addresses

/-- A socket to the server of a URL. -/
def connect (url : Url) : IO (Option TCP.Socket.Client) := do
  match url.authority with
  | none => return none
  | some authority =>
    let port := authority.port.getD 80
    let host := match authority.host with
      | .v6 address => address.write
      | host => host.write
    try
      let addresses ← (DNS.getAddrInfo (String.ofList host) (toString port)).block
      connectFirst port.toUInt16 addresses.toList
    catch _ => return none

/-- Sockets carry requests.  One that fails brings nothing and is closed. -/
def sockets : Carrier IO TCP.Socket.Client where
  connect := connect
  send c url := do
    try
      (c.channel.send (ByteArray.mk (Wire.request url).toArray)).block
      receive c.channel (ByteArray.mk c.unread.toArray)
    catch _ => return ([], true)

/-- The time that stands at the beginning of a log line. -/
def timestamp : IO String := do
  let now := Std.Time.PlainDateTime.ofWallTime ((← Std.Time.Timestamp.now).toWallTime .zero)
  return now.format "uuuu-MM-dd'T'HH:mm:ss.SSSSSS'Z'"

/-- Write what a run comes to, and give its exit code. -/
def write (outcome : Outcome) : IO UInt32 := do
  let stdout ← IO.getStdout
  let stderr ← IO.getStderr
  for emission in outcome.emissions do
    stdout.putStr emission.onStdout
    stdout.flush
    stderr.putStr (emission.onStderr outcome.logging (← timestamp))
  return outcome.exitCode.toUInt32

/-- Run with the arguments of the command line. -/
def run (arguments : List String) : IO UInt32 := do
  let path? := (CommandLine.parse arguments).toOption.bind (·.config)
  let file ← match path? with
    | some path => readFile path
    | none => pure (.error .missing)
  let names := match file with
    | .ok text => Substitution.names text
    | .error _ => []
  let env ← readEnvironment ("RUST_LOG" :: names)
  let fetched := Run.runWith (fun _ => file) env (Client.exchange sockets default) arguments
  let (outcome, _) ← fetched.run default
  write outcome

end HttpGet.Program

/-- The program. -/
def main (arguments : List String) : IO UInt32 := HttpGet.Program.run arguments
