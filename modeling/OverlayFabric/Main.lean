import OverlayFabric.CommandLine
import OverlayFabric.Json.Printer
import OverlayFabric.Json.Reader
import OverlayFabric.Store.Snapshot

namespace OverlayFabric

def usage : String :=
  "Usage: fabricsyncd [OPTIONS] <COMMAND>\n\n" ++
  "Commands:\n" ++
  "  check-config  Parse and validate the configuration\n" ++
  "  sync          Reconcile every pool with the configured ranges, then print usage\n" ++
  "  stats         Print pool usage as JSON\n" ++
  "  help          Print this message\n\n" ++
  "Options:\n" ++
  "  -c, --config <CONFIG>        Configuration file\n" ++
  "  -l, --log-level <LOG_LEVEL>  Log level\n" ++
  "  -h, --help                   Print help\n" ++
  "  -V, --version                Print version\n"

def readFile? (path : String) : IO (Option ByteArray) := do
  try return some (← IO.FS.readBinFile path)
  catch _ => return none

def openStore (path : String) : IO (Except StoreError Store) := do
  let refused := .error (.database "connect writer" false)
  match ← readFile? path with
  | some bytes =>
      match ((String.fromUTF8? bytes).bind Json.ofText?).bind Store.restore with
      | some store => return .ok store
      | none => return refused
  | none =>
      try
        IO.FS.writeFile path (Json.text (Store.save {}))
        return .ok {}
      catch _ => return refused

def perform (arguments : Arguments) : IO UInt32 := do
  let loaded := Configuration.ofFile (← readFile? arguments.config)
  let path := match loaded with
    | .ok configuration => configuration.database.path
    | .error _ => ""
  let connected ← match arguments.command, loaded with
    | .checkConfig, _ => pure (.ok {})
    | _, .ok configuration =>
        match configuration.check with
        | .ok _ => openStore path
        | .error _ => pure (.ok {})
    | _, .error _ => pure (.ok {})
  let outcome := arguments.command.run (fun _ => connected) loaded
  if let some store := outcome.store then IO.FS.writeFile path store.save.text
  match outcome.result with
  | .ok output => if let some json := output then IO.println json.pretty
  | .error complaint => IO.eprintln s!"error: {complaint}"
  return outcome.exitCode.toUInt32

end OverlayFabric

def main (words : List String) : IO UInt32 := do
  match OverlayFabric.CommandLine.read words with
  | .help =>
      IO.print OverlayFabric.usage
      return 0
  | .version =>
      IO.println "fabricsyncd 0.1.0"
      return 0
  | .refused error =>
      IO.eprintln s!"error: {error.message}"
      return 2
  | .run arguments => OverlayFabric.perform arguments
