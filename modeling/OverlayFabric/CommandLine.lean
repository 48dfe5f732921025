import OverlayFabric.Configuration.Load
import OverlayFabric.Store.Report

/-!
The command line: options before a command, then the command, which takes nothing but a request for
help. An option is given at most once, and its value may follow it or be joined to it. An option whose
value follows is judged only when the next option comes, or after the words of the command; help that
is asked for before that is given.
-/

namespace OverlayFabric

inductive Command where
  | checkConfig
  | sync
  | stats
  deriving DecidableEq, Repr

structure Arguments where
  config : String
  logLevel : String
  command : Command
  deriving DecidableEq, Repr

inductive UsageError where
  | missingCommand
  | unknownCommand (word : String)
  | unexpected (word : String)
  | missingValue (option : String)
  | repeated (option : String)
  deriving DecidableEq, Repr

def UsageError.message : UsageError → String
  | .missingCommand => "a command is required"
  | .unknownCommand word => s!"unrecognized command '{word}'"
  | .unexpected word => s!"unexpected argument '{word}'"
  | .missingValue option => s!"a value is required for '{option}'"
  | .repeated option => s!"'{option}' cannot be used multiple times"

inductive Invocation where
  | run (arguments : Arguments)
  | help
  | version
  | refused (error : UsageError)
  deriving DecidableEq, Repr

namespace CommandLine

structure Options where
  config : Option String := none
  logLevel : Option String := none

def defaultConfig : String := "/etc/fabricsync/fabricsyncd.toml"

def defaultLogLevel : String := "info"

inductive OptionName where
  | config
  | logLevel
  deriving DecidableEq, Repr

namespace OptionName

def text : OptionName → String
  | .config => "--config"
  | .logLevel => "--log-level"

def isGiven (option : OptionName) (options : Options) : Bool :=
  match option with
  | .config => options.config.isSome
  | .logLevel => options.logLevel.isSome

def accepts (option : OptionName) (value : String) : Bool := option == .logLevel || value != ""

def set (option : OptionName) (value : String) (options : Options) : Options :=
  match option with
  | .config => { options with config := some value }
  | .logLevel => { options with logLevel := some value }

end OptionName

inductive Word where
  | help
  | version
  | option (name : OptionName) (joined : Option String)
  | divider
  | plain
  | unexpected

def valueAfterEquals (cs : List Char) : List Char :=
  match cs with
  | '=' :: rest => rest
  | _ => cs

def shortOption (name : OptionName) (rest : List Char) : Word :=
  .option name (if rest.isEmpty then none else some (String.ofList (valueAfterEquals rest)))

def longWord (cs : List Char) : Word :=
  let name := String.ofList (cs.takeWhile (· != '='))
  let joined := (cs.dropWhile (· != '=')).tail?.map String.ofList
  match name, joined with
  | "help", none => .help
  | "version", none => .version
  | "config", joined => .option .config joined
  | "log-level", joined => .option .logLevel joined
  | _, _ => .unexpected

def classify (word : String) : Word :=
  match word.toList with
  | ['-', '-'] => .divider
  | '-' :: '-' :: rest => longWord rest
  | '-' :: 'h' :: _ => .help
  | '-' :: 'V' :: _ => .version
  | '-' :: 'c' :: rest => shortOption .config rest
  | '-' :: 'l' :: rest => shortOption .logLevel rest
  | '-' :: _ :: _ => .unexpected
  | _ => .plain

def command? : String → Option Command
  | "check-config" => some .checkConfig
  | "sync" => some .sync
  | "stats" => some .stats
  | _ => none

def afterCommand : List String → Option Invocation
  | [] => none
  | word :: rest =>
      match classify word, rest with
      | .help, _ => some .help
      | .divider, [] => none
      | .divider, word :: _ => some (.refused (.unexpected word))
      | _, _ => some (.refused (.unexpected word))

def finishHelp : List String → Invocation
  | [] => .help
  | word :: rest =>
      if word = "help" ∨ (command? word).isSome then
        match rest with
        | [] => .help
        | extra :: _ => .refused (.unknownCommand extra)
      else .refused (.unknownCommand word)

def give (name : OptionName) (value : Option String) (options : Options) :
    Except UsageError Options :=
  match value with
  | none => .error (.missingValue name.text)
  | some value =>
      if name.isGiven options then .error (.repeated name.text)
      else if name.accepts value then .ok (name.set value options)
      else .error (.missingValue name.text)

/-- The words read so far: options that were judged, and the last one if it was not. -/
structure Progress where
  options : Options := {}
  pending : Option (OptionName × Option String) := none

namespace Progress

def settle (progress : Progress) : Except UsageError Options :=
  match progress.pending with
  | none => .ok progress.options
  | some (name, value) => give name value progress.options

def awaiting? (progress : Progress) : Option OptionName :=
  match progress.pending with
  | some (name, none) => some name
  | _ => none

def invocation (progress : Progress) (onOptions : Options → Invocation) : Invocation :=
  match progress.settle with
  | .ok options => onOptions options
  | .error error => .refused error

def run (progress : Progress) (command : Command) : Invocation :=
  progress.invocation fun options => .run {
    config := options.config.getD defaultConfig
    logLevel := options.logLevel.getD defaultLogLevel, command }

/-- Adds an option; the one before it is judged, and it is itself if its value is joined to it. -/
def addOption (progress : Progress) (name : OptionName) (joined : Option String) :
    Except UsageError Progress := do
  let options ← progress.settle
  match joined with
  | some _ => return ⟨← give name joined options, none⟩
  | none => return ⟨options, some (name, none)⟩

end Progress

def readFrom (progress : Progress) : List String → Invocation
  | [] => progress.invocation fun _ => .refused .missingCommand
  | word :: rest =>
      match classify word, progress.awaiting? with
      | .plain, some name => readFrom { progress with pending := some (name, some word) } rest
      | .plain, none =>
          if word = "help" then finishHelp rest
          else match command? word with
            | some command => (afterCommand rest).getD (progress.run command)
            | none => .refused (.unknownCommand word)
      | .help, _ => progress.invocation fun _ => .help
      | .version, _ => progress.invocation fun _ => .version
      | .option name joined, _ =>
          match progress.addOption name joined with
          | .ok progress => readFrom progress rest
          | .error error => .refused error
      | .divider, _ => progress.invocation fun _ =>
          .refused ((rest.head?.map .unexpected).getD .missingCommand)
      | .unexpected, _ => .refused (.unexpected word)

def read (words : List String) : Invocation := readFrom {} words

end CommandLine

structure Outcome where
  result : Except String (Option Json)
  store : Option Store

namespace Outcome

def failed (complaint : String) : Outcome := ⟨.error complaint, none⟩

def exitCode (outcome : Outcome) : Nat :=
  match outcome.result with
  | .ok _ => 0
  | .error _ => 1

end Outcome

namespace Command

def syncAndReport (allocators : Allocators) : StoreM Json := do
  let synced ← allocators.syncAll .free
  let stats ← allocators.stats
  return .object [("synced", synced.encode), ("stats", stats.encode)]

def onStore (connect : DatabaseSettings → Except StoreError Store) (settings : DatabaseSettings)
    (action : StoreM Json) : Outcome :=
  match connect settings with
  | .error e => .failed e.message
  | .ok store =>
      match action.run store with
      | (.ok output, store) => ⟨.ok (some output), some store⟩
      | (.error e, store) => ⟨.error e.message, some store⟩

def run (command : Command) (connect : DatabaseSettings → Except StoreError Store)
    (loaded : Except LoadFault Configuration) : Outcome :=
  match loaded with
  | .error .unreadable => .failed "the configuration cannot be read"
  | .error .malformed => .failed "the configuration is malformed"
  | .ok configuration =>
      match configuration.check with
      | .error e => .failed e.message
      | .ok ranges =>
          let allocators := Allocators.ofRanges ranges
          match command with
          | .checkConfig => ⟨.ok none, none⟩
          | .sync => onStore connect configuration.database (syncAndReport allocators)
          | .stats => onStore connect configuration.database (StatsReport.encode <$> allocators.stats)

end Command
end OverlayFabric
