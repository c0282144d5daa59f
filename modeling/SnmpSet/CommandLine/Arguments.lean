import SnmpSet.KeyChange.Algorithm

/-!
# Command-line arguments

Arguments are taken from left to right, and the first that is wrong or asks for
help settles the matter. An option is given at most once, and its value stands
behind an equals sign or is the next argument, which then must not look like an
option itself. After two lone hyphens no argument is an option.
-/

namespace SnmpSet.CommandLine

/-- One argument by its form. -/
inductive Argument where
  /-- Two hyphens alone. -/
  | separator
  /-- Two hyphens and a name, perhaps with a value behind an equals sign. -/
  | long (name : String) (attached : Option String)
  /-- One hyphen and letters. -/
  | short (letter : Char)
  | plain
  deriving DecidableEq

/-- A name and what follows the first equals sign. -/
def splitAttached (cs : List Char) : String × Option String :=
  let name := String.ofList (cs.takeWhile (· ≠ '='))
  match cs.dropWhile (· ≠ '=') with
  | [] => (name, none)
  | _ :: value => (name, some (String.ofList value))

/-- The form of an argument. A lone hyphen is plain. -/
def Argument.ofString (s : String) : Argument :=
  match s.toList with
  | ['-', '-'] => .separator
  | '-' :: '-' :: cs => .long (splitAttached cs).1 (splitAttached cs).2
  | '-' :: letter :: _ => .short letter
  | _ => .plain

/-- Why arguments name no command. -/
inductive NoCommand where
  /-- They ask how the program is used. -/
  | help
  /-- They ask which version this is. -/
  | version
  /-- They are wrong. -/
  | misuse
  deriving DecidableEq

/-- What a command takes. -/
structure Grammar where
  /-- The options that have a value. -/
  options : List String
  /-- The options that have none. -/
  flags : List String
  /-- The number of plain arguments. -/
  plain : Nat
  /-- An option's value, or a plain argument under the name of none, is one that the
  command can use. -/
  admits : (option value : String) → Bool

/-- What was given to a command. -/
structure Given where
  options : List (String × String)
  flags : List String
  plain : List String

namespace Given

/-- Nothing. -/
def nothing : Given := ⟨[], [], []⟩

/-- The value of an option. -/
def option? (given : Given) (name : String) : Option String :=
  (given.options.find? fun o => o.1 = name).map Prod.snd

end Given

namespace Grammar

/-- Adds the value of an option. -/
def addOption (g : Grammar) (given : Given) (name value : String) : Except NoCommand Given :=
  if (given.option? name).isNone ∧ g.admits name value then
    .ok { given with options := given.options ++ [(name, value)] }
  else .error .misuse

/-- Adds an option without a value. -/
def addFlag (given : Given) (name : String) : Except NoCommand Given :=
  if name ∈ given.flags then .error .misuse
  else .ok { given with flags := given.flags ++ [name] }

/-- Adds a plain argument. -/
def addPlain (g : Grammar) (given : Given) (value : String) : Except NoCommand Given :=
  if given.plain.length < g.plain ∧ g.admits "" value then
    .ok { given with plain := given.plain ++ [value] }
  else .error .misuse

/-- Takes the arguments of a command. -/
def read (g : Grammar) : Given → List String → Except NoCommand Given
  | given, [] => .ok given
  | given, arg :: args =>
    match Argument.ofString arg with
    | .separator => args.foldlM g.addPlain given
    | .short letter => .error (if letter = 'h' then .help else .misuse)
    | .plain =>
      match g.addPlain given arg with
      | .error stop => .error stop
      | .ok given => read g given args
    | .long name (some value) =>
      if name ∈ g.options then
        match g.addOption given name value with
        | .error stop => .error stop
        | .ok given => read g given args
      else .error .misuse
    | .long name none =>
      if name = "help" then .error .help
      else if name ∈ g.flags then
        match addFlag given name with
        | .error stop => .error stop
        | .ok given => read g given args
      else if name ∈ g.options then
        match args with
        | [] => .error .misuse
        | value :: args =>
          if Argument.ofString value = .plain then
            match g.addOption given name value with
            | .error stop => .error stop
            | .ok given => read g given args
          else .error .misuse
      else .error .misuse

end Grammar

/-- A command of the program. Keys and key-change values are still in hexadecimal. -/
inductive Command where
  /-- Loads a configuration and lists its objects. -/
  | checkConfig (path : String) (asJson : Bool)
  /-- Applies a key-change value to an old key. -/
  | applyKeyChange (algorithm : AuthAlgorithm) (oldKey keyChange : String)
  /-- Makes the key-change value from an old key to a new one. -/
  | makeKeyChange (algorithm : AuthAlgorithm) (oldKey newKey : String)
      (random : Option String)
  deriving DecidableEq

namespace Command

/-- The flag that every command takes. It is about the log and changes no answer. -/
def logFlag : String := "log-json"

/-- The value can be used: algorithms by their names, and a path that is not empty. -/
def admits (option value : String) : Bool :=
  if option = "protocol" then (AuthAlgorithm.ofText value).toOption.isSome
  else if option = "" then value ≠ ""
  else true

/-- The algorithm that was asked for, which is SHA-256 unless another is named. -/
def algorithm (given : Given) : AuthAlgorithm :=
  ((given.option? "protocol").bind fun name => (AuthAlgorithm.ofText name).toOption).getD
    .sha256

/-- A command with all it needs, or misuse. -/
def orMisuse : Option Command → Except NoCommand Command
  | some c => .ok c
  | none => .error .misuse

/-- Reads the command of a name. -/
def ofName (name : String) (args : List String) : Except NoCommand Command :=
  if name = "check-config" then do
    let given ← Grammar.read ⟨[], ["json", logFlag], 1, admits⟩ .nothing args
    orMisuse <| given.plain.head?.map fun path => .checkConfig path (given.flags.contains "json")
  else if name = "key-change" then do
    let given ← Grammar.read ⟨["protocol", "old-key", "key-change"], [logFlag], 0, admits⟩
      .nothing args
    orMisuse do
      let oldKey ← given.option? "old-key"
      let keyChange ← given.option? "key-change"
      return .applyKeyChange (algorithm given) oldKey keyChange
  else if name = "encode-key-change" then do
    let given ← Grammar.read ⟨["protocol", "old-key", "new-key", "random"], [logFlag], 0, admits⟩
      .nothing args
    orMisuse do
      let oldKey ← given.option? "old-key"
      let newKey ← given.option? "new-key"
      return .makeKeyChange (algorithm given) oldKey newKey (given.option? "random")
  else if name = "help" then
    match args with
    | [] => .error .help
    | [topic] =>
      .error (if topic ∈ ["check-config", "key-change", "encode-key-change", "help"] then .help
        else .misuse)
    | _ => .error .misuse
  else .error .misuse

/-- Reads the arguments of the program. -/
def ofArguments (hasLogFlag : Bool) : List String → Except NoCommand Command
  | [] => .error .misuse
  | arg :: args =>
    match Argument.ofString arg with
    | .plain => ofName arg args
    | .separator => .error .misuse
    | .short letter =>
      .error (if letter = 'h' then .help else if letter = 'V' then .version else .misuse)
    | .long _ (some _) => .error .misuse
    | .long name none =>
      if name = "help" then .error .help
      else if name = "version" then .error .version
      else if name = logFlag ∧ !hasLogFlag then ofArguments true args
      else .error .misuse

end Command

end SnmpSet.CommandLine
