import SnmpSet.CommandLine.Arguments
import SnmpSet.Config.Build
import SnmpSet.Config.Reader

/-!
# What commands print

A command succeeds with lines on the standard output or fails with a message on
the standard error, below which stands the cause if there is one.
-/

namespace SnmpSet.CommandLine

/-- The version of the program. -/
def programVersion : String := "0.1.0"

/-- Why a file cannot be read. -/
inductive FileError where
  | notFound
  | notDirectory
  | isDirectory
  | notPermitted
  | nameTooLong
  /-- Any other reason, in words. -/
  | other (reason : String)
  deriving DecidableEq

/-- The wording of a file error. -/
def FileError.message : FileError → String
  | .notFound => "No such file or directory (os error 2)"
  | .notPermitted => "Permission denied (os error 13)"
  | .notDirectory => "Not a directory (os error 20)"
  | .isDirectory => "Is a directory (os error 21)"
  | .nameTooLong => "File name too long (os error 36)"
  | .other reason => reason

/-- What a command needs from the machine. -/
structure Host where
  /-- The octets of a file. -/
  contents : (path : String) → Except FileError (List UInt8)
  /-- A number of unpredictable octets. -/
  entropy : Nat → List UInt8

/-- Why a command fails. -/
structure Failure where
  message : String
  cause : Option String
  deriving DecidableEq

/-- What a failure prints. -/
def Failure.text (f : Failure) : String :=
  match f.cause with
  | none => String.join ["Error: ", f.message, "\n"]
  | some cause => String.join ["Error: ", f.message, "\n\nCaused by:\n    ", cause, "\n"]

/-- The failure of a value that is not hexadecimal. -/
def Failure.ofHex (option : String) (e : Text.HexError) : Failure :=
  ⟨s!"--{option} is not valid hex", some e.message⟩

/-- The octets of an option. -/
def hexOption (option value : String) : Except Failure (List UInt8) :=
  (Text.readHex value).mapError (Failure.ofHex option)

/-- Refuses octets that are not as many as an algorithm's keys have. -/
def needKeyLength (name : String) (octets : List UInt8) (algorithm : AuthAlgorithm) :
    Except Failure Unit :=
  let expected := algorithm.protocol.keyLength.toNat
  if octets.length = expected then .ok ()
  else .error
    ⟨s!"{name} is {octets.length} bytes, {algorithm.debugText} needs {expected}", none⟩

/-- The text of a file. -/
def readText (host : Host) (path : String) : Except Failure String :=
  let failure (reason : String) : Failure := ⟨s!"failed to read {path}: {reason}", some reason⟩
  match host.contents path with
  | .error e => .error (failure e.message)
  | .ok octets =>
    match Text.ofUtf8? octets with
    | some cs => .ok (String.ofList cs)
    | none => .error (failure "stream did not contain valid UTF-8")

/-- The clock that time stamps of a checked configuration are attached to. -/
def upTime : Clock := ⟨0⟩

/-- A checked configuration in JSON: the limit, and the addresses in file order. -/
def configJson (config : AgentConfig) (agent : Agent) : Json :=
  .object
    [("max_bindings", .integer agent.maxBindings),
      ("objects", .array (config.objects.map fun o => .object [("oid", o.oid.toJson)]))]

/-- A checked configuration in words: the limit, and the objects in the order of
their addresses. -/
def configText (path : String) (agent : Agent) : String :=
  String.join <|
    ["Configuration OK: ", path, "\n  Max bindings: ", toString agent.maxBindings,
      "\n  Objects: ", toString agent.store.size, "\n"] ++
    agent.store.objects.map fun o =>
      String.join ["    ", o.oid.text, " (", o.body.kind.name, ")\n"]

/-- Loads a configuration and lists its objects. -/
def checkConfig (host : Host) (path : String) (asJson : Bool) : Except Failure String := do
  let document ← readText host path
  match AgentConfig.ofText? document with
  | none => .error ⟨"invalid configuration", none⟩
  | some config =>
    match config.agent upTime with
    | .error e => .error ⟨e.message, e.causeMessage?⟩
    | .ok agent =>
      if asJson then return (configJson config agent).indentedText ++ "\n"
      else return configText path agent

/-- Applies a key-change value to an old key. -/
def applyKeyChange (algorithm : AuthAlgorithm) (oldKey keyChange : String) :
    Except Failure String := do
  let oldKey ← hexOption "old-key" oldKey
  let keyChange ← hexOption "key-change" keyChange
  needKeyLength "old key" oldKey algorithm
  let protocol := algorithm.protocol
  match protocol.rotate oldKey keyChange protocol.keyLength with
  | .ok rotation =>
    return String.join
      ["new key:  ", String.ofList (Text.hex rotation.key), "\nreported: ",
        String.ofList (Text.hex rotation.reported), "\n"]
  | .error e => .error ⟨e.message, none⟩

/-- Makes the key-change value from an old key to a new one. The random part is
drawn from the machine unless it is given. -/
def makeKeyChange (host : Host) (algorithm : AuthAlgorithm) (oldKey newKey : String)
    (random : Option String) : Except Failure String := do
  let oldKey ← hexOption "old-key" oldKey
  let newKey ← hexOption "new-key" newKey
  needKeyLength "old key" oldKey algorithm
  needKeyLength "new key" newKey algorithm
  let random ← match random with
    | some random => hexOption "random" random
    | none => .ok (host.entropy algorithm.protocol.keyLength.toNat)
  needKeyLength "random" random algorithm
  let sent := algorithm.protocol.keyChangeFor oldKey newKey random
  return String.ofList (Text.hex sent) ++ "\n"

/-- Runs a command. -/
def Command.run (host : Host) : Command → Except Failure String
  | .checkConfig path asJson => CommandLine.checkConfig host path asJson
  | .applyKeyChange algorithm oldKey sent => CommandLine.applyKeyChange algorithm oldKey sent
  | .makeKeyChange algorithm oldKey newKey random =>
    CommandLine.makeKeyChange host algorithm oldKey newKey random

/-- What a run of the program leaves behind. -/
structure Exit where
  code : Nat
  stdout : String
  stderr : String
  deriving DecidableEq

/-- How the program is used. -/
def usage : String :=
  String.join
    ["Usage: mibtx [--log-json] <COMMAND>\n\n", "Commands:\n",
      "  check-config <path> [--json]\n",
      "  key-change [--protocol <name>] --old-key <hex> --key-change <hex>\n",
      "  encode-key-change [--protocol <name>] --old-key <hex> --new-key <hex> [--random <hex>]\n"]

/-- What arguments come to that name no command. -/
def NoCommand.exit : NoCommand → Exit
  | .help => ⟨0, usage, ""⟩
  | .version => ⟨0, String.join ["mibtx ", programVersion, "\n"], ""⟩
  | .misuse => ⟨2, "", usage⟩

/-- Runs the program. -/
def run (host : Host) (args : List String) : Exit :=
  match Command.ofArguments false args with
  | .error stop => stop.exit
  | .ok command =>
    match command.run host with
    | .ok stdout => ⟨0, stdout, ""⟩
    | .error failure => ⟨1, "", failure.text⟩

end SnmpSet.CommandLine
