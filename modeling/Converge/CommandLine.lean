import Converge.Capabilities
import Converge.Text.Split

/-!
# Command lines

`Arguments.parse` reads the words after the name of the program: a command with its options. A
word that starts with a dash is an option wherever it stands; options with a value take it from
the same word or from the next one. A value is only looked at when the next option is recognised
or the words are at their end, so that a word that is not understood is reported before it.
-/

namespace Converge

/-- What to render. -/
structure RenderArguments where
  file : String
  namespaceName : Option String
  capabilities : Capabilities
  objectsOnly : Bool

/-- What to plan. -/
structure PlanArguments where
  file : String
  namespaceName : Option String
  clusterFile : Option String
  asDocument : Bool

/-- A command with its options. -/
inductive Command where
  | render (arguments : RenderArguments)
  | plan (arguments : PlanArguments)

/-- A whole command line. -/
structure Arguments where
  logJson : Bool
  command : Command

/-- Why a command line is not carried out. -/
inductive UsageError where
  | displayHelp
  | displayVersion
  | displayHelpForNothing
  | missingSubcommand
  | invalidSubcommand
  | unknownArgument
  | tooManyValues
  | invalidValue
  | argumentConflict
  | missingRequiredArgument
  deriving DecidableEq

namespace CommandLine

/-- An option without a value. -/
inductive FlagName where
  | help
  | version
  | logJson
  | openshift
  | routes
  | ingress
  | objectsOnly
  | asDocument
  deriving DecidableEq

/-- An option with a value. -/
inductive OptionName where
  | file
  | namespaceName
  | clusterFile
  deriving DecidableEq

/-- What an option stands for. -/
inductive Switch where
  | flag (name : FlagName)
  | option (name : OptionName)
  deriving DecidableEq

/-- The options that are known at a place: their long name, their letter, and their meaning. -/
abbrev Switches := List (String × Option Char × Switch)

/-- The options before a command. -/
def rootSwitches : Switches :=
  [ ("help", some 'h', .flag .help), ("version", some 'V', .flag .version),
    ("log-json", none, .flag .logJson) ]

/-- The options of both commands. -/
def commonSwitches : Switches :=
  [ ("help", some 'h', .flag .help), ("log-json", none, .flag .logJson),
    ("file", some 'f', .option .file), ("namespace", some 'n', .option .namespaceName) ]

/-- The options of the command that renders. -/
def renderSwitches : Switches :=
  commonSwitches ++
    [ ("openshift", none, .flag .openshift), ("routes", none, .flag .routes),
      ("ingress", none, .flag .ingress), ("objects-only", none, .flag .objectsOnly) ]

/-- The options of the command that plans. -/
def planSwitches : Switches :=
  commonSwitches ++
    [("kubeconfig", none, .option .clusterFile), ("yaml", none, .flag .asDocument)]

/-- The option of a long name. -/
def Switches.long? (switches : Switches) (name : String) : Option Switch :=
  (switches.find? fun switch => switch.1 == name).map (·.2.2)

/-- The option of a letter. -/
def Switches.short? (switches : Switches) (letter : Char) : Option Switch :=
  (switches.find? fun switch => switch.2.1 == some letter).map (·.2.2)

/-- What was found so far, with an option that is not looked at yet and its value if it has one. -/
structure Found where
  flags : List FlagName
  values : List (OptionName × String)
  pending : Option (OptionName × Option String)

namespace Found

/-- Nothing. -/
def empty : Found := ⟨[], [], none⟩

/-- The value of an option. -/
def value? (found : Found) (name : OptionName) : Option String :=
  (found.values.find? fun entry => entry.1 == name).map (·.2)

/-- Looks at the option that is not looked at yet: it needs a value, must not be there twice, and
only a namespace may be empty. -/
def settle (found : Found) : Except UsageError Found :=
  match found.pending with
  | none => .ok found
  | some (_, none) => .error .invalidValue
  | some (name, some value) =>
    if (found.value? name).isSome then .error .argumentConflict
    else if value.isEmpty && name != .namespaceName then .error .invalidValue
    else .ok { found with values := (name, value) :: found.values, pending := none }

/-- Adds an option without a value. -/
def addFlag (found : Found) (name : FlagName) : Except UsageError Found := do
  let found ← found.settle
  if name = .help then .error .displayHelp
  else if name = .version then .error .displayVersion
  else if found.flags.contains name then .error .argumentConflict
  else .ok { found with flags := name :: found.flags }

/-- Adds an option whose value may still follow. -/
def addOption (found : Found) (name : OptionName) (value : Option String) :
    Except UsageError Found := do
  let found ← found.settle
  .ok { found with pending := some (name, value) }

/-- Adds an option whose value stands in the same word; such a value is looked at at once. -/
def addAttached (found : Found) (name : OptionName) (value : String) : Except UsageError Found := do
  (← found.addOption name (some value)).settle

/-- Reads a word behind its two dashes. -/
def readLong (switches : Switches) (found : Found) (word : List Char) : Except UsageError Found :=
  let (name, value) := match Text.splitFirst? '=' word with
    | some (name, value) => (name, some (String.ofList value))
    | none => (word, none)
  match switches.long? (String.ofList name), value with
  | none, _ => .error .unknownArgument
  | some (.flag _), some _ => .error .tooManyValues
  | some (.flag flag), none => found.addFlag flag
  | some (.option option), some value => found.addAttached option value
  | some (.option option), none => found.addOption option none

/-- Reads the letters of a word behind its dash. -/
def readShort (switches : Switches) (found : Found) : List Char → Except UsageError Found
  | [] => .ok found
  | letter :: rest =>
    match switches.short? letter, rest with
    | none, _ => .error .unknownArgument
    | some (.flag flag), rest => do
      let found ← found.addFlag flag
      readShort switches found rest
    | some (.option option), [] => found.addOption option none
    | some (.option option), '=' :: value => found.addAttached option (String.ofList value)
    | some (.option option), value => found.addAttached option (String.ofList value)

/-- Whether the next word is the value of an option. -/
def awaitsValue (found : Found) : Bool :=
  match found.pending with
  | some (_, none) => true
  | _ => false

/-- Takes a word as the value of the option that awaits one. -/
def giveValue (found : Found) (value : String) : Found :=
  { found with pending := found.pending.map fun option => (option.1, some value) }

end Found

/-- What a word is. -/
inductive Word where
  | escape
  | long (text : List Char)
  | short (letters : List Char)
  | plain
  deriving DecidableEq

/-- Sorts a word by its dashes. A single dash is a plain word. -/
def Word.of (word : String) : Word :=
  match word.toList with
  | ['-', '-'] => escape
  | '-' :: '-' :: text => long text
  | ['-'] => plain
  | '-' :: letters => short letters
  | _ => plain

/-- Reads the options of a command; there are no words that are not options or their values. -/
def readOptions (switches : Switches) (found : Found) :
    (escaped : Bool) → List String → Except UsageError Found
  | _, [] => found.settle
  | true, _ :: _ => .error .unknownArgument
  | false, word :: words =>
    match Word.of word with
    | .escape => readOptions switches found true words
    | .long text => do
      let found ← found.readLong switches text
      readOptions switches found false words
    | .short letters => do
      let found ← found.readShort switches letters
      readOptions switches found false words
    | .plain =>
      if found.awaitsValue then readOptions switches (found.giveValue word) false words
      else .error .unknownArgument

/-- The names of the commands. -/
def commandNames : List String := ["render", "plan", "help"]

/-- Reads the options before a command, and gives the command with the words after it. -/
def readRoot (found : Found) :
    (escaped : Bool) → List String → Except UsageError (Found × String × List String)
  | _, [] => do
    let found ← found.settle
    if found.flags.isEmpty then .error .displayHelpForNothing else .error .missingSubcommand
  | true, word :: _ =>
    .error (if commandNames.contains word then .unknownArgument else .invalidSubcommand)
  | false, word :: words =>
    if commandNames.contains word then .ok (found, word, words)
    else
      match Word.of word with
      | .escape => readRoot found true words
      | .long text => do
        let found ← found.readLong rootSwitches text
        readRoot found false words
      | .short letters => do
        let found ← found.readShort rootSwitches letters
        readRoot found false words
      | .plain => .error .invalidSubcommand

/-- The answer to a request for help on a command. -/
def readHelp (words : List String) : UsageError :=
  match words with
  | [] => .displayHelp
  | [word] => if commandNames.contains word then .displayHelp else .invalidSubcommand
  | _ => .invalidSubcommand

/-- The file that a command needs. -/
def requireFile (found : Found) : Except UsageError String :=
  match found.value? .file with
  | some file => .ok file
  | none => .error .missingRequiredArgument

end CommandLine

open CommandLine in
/-- Reads the words after the name of the program. -/
def Arguments.parse (words : List String) : Except UsageError Arguments := do
  let (root, name, words) ← readRoot .empty false words
  if name = "help" then .error (readHelp words)
  else if name = "render" then
    let found ← readOptions renderSwitches .empty false words
    let file ← requireFile found
    let has (flag : FlagName) : Bool := found.flags.contains flag
    return {
      logJson := root.flags.contains .logJson || has .logJson
      command := .render
        { file
          namespaceName := found.value? .namespaceName
          capabilities := ⟨has .routes, has .ingress, has .openshift⟩
          objectsOnly := has .objectsOnly } }
  else
    let found ← readOptions planSwitches .empty false words
    let file ← requireFile found
    let has (flag : FlagName) : Bool := found.flags.contains flag
    return {
      logJson := root.flags.contains .logJson || has .logJson
      command := .plan
        { file
          namespaceName := found.value? .namespaceName
          clusterFile := found.value? .clusterFile
          asDocument := has .asDocument } }

end Converge
