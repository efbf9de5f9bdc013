import LayeredSchema.Command.Arguments
import LayeredSchema.Number.Power
import LayeredSchema.Schema.Watch

/-!
# Reading the command line

Words are read one after the other. An option whose value stands apart stays pending until the
next option is read or the words end; only then its value is checked. An error in a word therefore
may come before an error in a pending value.
-/

namespace LayeredSchema

namespace CommandLine

/-! ## Values of options -/

/-- The format that an option's value names, whose case matters. -/
def formatOfValue? (value : String) : Option OutputFormat :=
  if value = "json" then some .json else if value = "yaml" then some .yaml else none

/-- The number that an option's value denotes: decimal digits, possibly behind a plus sign, for a
number of 64 bits. -/
def durationOfValue? (value : String) : Option Nat :=
  let digits := match value.toList with
    | '+' :: rest => rest
    | cs => cs
  if digits ≠ [] ∧ digits.all Char.isDigit then
    let n := Nat.ofDigitChars 10 digits 0
    if fitsUnsigned 64 n then some n else none
  else none

/-- What is wrong with the value of an option. -/
def valueFault? (option : OptionName) (value : String) : Option UsageFault :=
  match option with
  | .format => if (formatOfValue? value).isSome then none else some .invalidValue
  | .output => if value = "" then some .invalidValue else none
  | .debounce => if (durationOfValue? value).isSome then none else some .valueValidation
  | _ => none

/-! ## Reading words -/

/-- The options read at one level of the command line. -/
structure LevelState where
  /-- The options read, with their values; flags have the empty value. -/
  found : List (OptionName × String) := []
  /-- An option that has been read, with its value as far as it has one. -/
  pending : Option (OptionName × Option String) := none

namespace LevelState

/-- Takes an option with its value. A missing value is reported before a repetition, and that
before a wrong value. -/
def accept (s : LevelState) (option : OptionName) (value : Option String) :
    Except UsageFault LevelState :=
  match value with
  | none => .error .invalidValue
  | some value =>
    if s.found.any fun entry => entry.1 = option then .error .argumentConflict
    else
      match valueFault? option value with
      | some fault => .error fault
      | none => .ok { s with found := s.found ++ [(option, value)] }

/-- Takes the pending option. -/
def settle (s : LevelState) : Except UsageFault LevelState :=
  match s.pending with
  | none => .ok s
  | some (option, value) => { s with pending := none }.accept option value

/-- Takes an option whose value is attached to it. -/
def takeAttached (s : LevelState) (option : OptionName) (value : String) :
    Except UsageFault LevelState := do
  (← s.settle).accept option (some value)

/-- Takes a flag. Help and version end the reading. -/
def takeFlag (s : LevelState) (option : OptionName) : Except UsageFault LevelState := do
  let s ← s.settle
  match option with
  | .help => .error .displayHelp
  | .version => .error .displayVersion
  | option => s.accept option (some "")

/-- Takes an option whose value is yet to come. -/
def await (s : LevelState) (option : OptionName) : Except UsageFault LevelState := do
  let s ← s.settle
  .ok { s with pending := some (option, none) }

/-- Whether the next word is the value of an option. -/
def awaitsValue (s : LevelState) : Bool :=
  match s.pending with
  | some (_, none) => true
  | _ => false

/-- Takes a word as the value of the pending option. -/
def provide (s : LevelState) (word : String) : LevelState :=
  match s.pending with
  | some (option, none) => { s with pending := some (option, some word) }
  | _ => s

end LevelState

/-- Splits a text at the first equals sign. -/
def splitEquals (cs : List Char) : List Char × Option (List Char) :=
  let name := cs.takeWhile (· ≠ '=')
  (name, match cs.drop name.length with
    | _ :: value => some value
    | [] => none)

/-- Reads a word that starts with two dashes, without these. -/
def readLong (options : List OptionName) (s : LevelState) (cs : List Char) :
    Except UsageFault LevelState :=
  let (name, value) := splitEquals cs
  match options.find? fun option => option.long.toList = name with
  | none => .error .unknownArgument
  | some option =>
    match option.takesValue, value with
    | true, some value => s.takeAttached option (String.ofList value)
    | true, none => s.await option
    | false, some _ => .error .tooManyValues
    | false, none => s.takeFlag option

/-- Reads the letters of a word that starts with one dash. What follows the letter of an option
with a value is that value, an equals sign aside. -/
def readShort (options : List OptionName) (s : LevelState) :
    List Char → Except UsageFault LevelState
  | [] => .ok s
  | c :: rest => do
    match options.find? fun option => option.short? = some c with
    | none => .error .unknownArgument
    | some option =>
      if option.takesValue then
        match rest with
        | [] => s.await option
        | '=' :: value => s.takeAttached option (String.ofList value)
        | value => s.takeAttached option (String.ofList value)
      else readShort options (← s.takeFlag option) rest

/-- A word by the dashes in front of it. -/
inductive Word where
  | escape
  | long (cs : List Char)
  | short (cs : List Char)
  | other

/-- The form of a word. A lone dash is no option. -/
def Word.of (word : String) : Word :=
  match word.toList with
  | ['-', '-'] => escape
  | '-' :: '-' :: cs => long cs
  | '-' :: c :: cs => short (c :: cs)
  | _ => other

/-- Reads the words of a command. A word that is neither an option nor a value is refused. -/
def readWords (options : List OptionName) : LevelState → List String →
    Except UsageFault LevelState
  | s, [] => .ok s
  | s, word :: rest =>
    match Word.of word with
    | .escape => if rest.isEmpty then .ok s else .error .unknownArgument
    | .long cs => do readWords options (← readLong options s cs) rest
    | .short cs => do readWords options (← readShort options s cs) rest
    | .other =>
      if s.awaitsValue then readWords options (s.provide word) rest
      else .error .unknownArgument

/-- The options in front of a command. -/
def rootOptions : List OptionName :=
  OptionName.common ++ [.help, .version]

/-- The words that name a command or the help on one. -/
def isCommandWord (word : String) : Bool :=
  word = "help" || (CommandName.ofText? word).isSome

/-- The answer to a request for help on a command: there must be such a command, and commands have
no commands of their own. -/
def helpOn : List String → UsageFault
  | [] => .displayHelp
  | [word] => if isCommandWord word then .displayHelp else .invalidSubcommand
  | _ => .invalidSubcommand

/-- Reads the words in front of a command, and hands over the command with the words behind it. -/
def readRoot : LevelState → List String →
    Except UsageFault (LevelState × Option (CommandName × List String))
  | s, [] => .ok (s, none)
  | s, word :: rest =>
    if !s.awaitsValue && word = "help" then .error (helpOn rest)
    else
      match if s.awaitsValue then none else CommandName.ofText? word with
      | some command => .ok (s, some (command, rest))
      | none =>
        match Word.of word with
        | .escape =>
          match rest with
          | [] => .ok (s, none)
          | next :: _ =>
            .error (if isCommandWord next then .unknownArgument else .invalidSubcommand)
        | .long cs => do readRoot (← readLong rootOptions s cs) rest
        | .short cs => do readRoot (← readShort rootOptions s cs) rest
        | .other =>
          if s.awaitsValue then readRoot (s.provide word) rest else .error .invalidSubcommand

/-! ## From options to arguments -/

/-- The value of an option among those found. -/
def value? (found : List (OptionName × String)) (option : OptionName) : Option String :=
  found.lookup option

/-- The command with the options found behind it. -/
def commandOf (name : CommandName) (found : List (OptionName × String)) : Command :=
  let has := fun option => (value? found option).isSome
  let format := (value? found .format).bind formatOfValue?
  let output := (value? found .output).map Path.mk
  match name with
  | .compose =>
    .compose { output, format, strict := has .strict, requireAll := has .requireAll }
  | .check => .check { format, denyWarnings := has .denyWarnings }
  | .defaults => .defaults format
  | .watch =>
    let debounce := ((value? found .debounce).bind durationOfValue?).getD defaultDebounce
    .watch { output, format, debounce }

/-- The log target unless an option names one. -/
def defaultLog : String := "2"

/-- The arguments of options found in front of the command and behind it; of a common option the
one behind the command counts. -/
def argumentsOf (found : List (OptionName × String)) (command : Option Command) : Arguments :=
  { config := value? found .config
    partsDir := value? found .partsDir
    userDir := value? found .userDir
    verbose := (value? found .verbose).isSome
    log := (value? found .log).getD defaultLog
    command }

end CommandLine

open CommandLine in
/-- The arguments that the words of a command line give. -/
def Arguments.ofWords (words : List String) : Except UsageFault Arguments := do
  let (root, command) ← readRoot {} words
  match command with
  | none =>
    let root ← root.settle
    .ok (argumentsOf root.found none)
  | some (name, rest) =>
    let level ← readWords name.options {} rest
    let level ← level.settle
    let root ← root.settle
    .ok (argumentsOf (level.found ++ root.found) (some (commandOf name level.found)))

end LayeredSchema
