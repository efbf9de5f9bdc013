import LayeredSchema.Disk.Path
import LayeredSchema.Document.Format

/-!
# Arguments of the command line

The arguments choose a command and set options. Some options are common to all commands and may
stand in front of the command or behind it.
-/

namespace LayeredSchema

/-- The options of the command line. -/
inductive OptionName where
  | config
  | partsDir
  | userDir
  | verbose
  | log
  | help
  | version
  | output
  | format
  | strict
  | requireAll
  | denyWarnings
  | debounce
  deriving DecidableEq

namespace OptionName

/-- The long form of an option, without its dashes. -/
def long : OptionName → String
  | config => "config"
  | partsDir => "parts-dir"
  | userDir => "user-dir"
  | verbose => "verbose"
  | log => "log"
  | help => "help"
  | version => "version"
  | output => "output"
  | format => "format"
  | strict => "strict"
  | requireAll => "require-all"
  | denyWarnings => "deny-warnings"
  | debounce => "debounce-ms"

/-- The letter of the short form of an option. -/
def short? : OptionName → Option Char
  | config => some 'c'
  | partsDir => some 'p'
  | userDir => some 'u'
  | verbose => some 'v'
  | log => some 'l'
  | help => some 'h'
  | version => some 'V'
  | output => some 'o'
  | format => some 'f'
  | strict | requireAll | denyWarnings | debounce => none

/-- Whether an option has a value. -/
def takesValue : OptionName → Bool
  | config | partsDir | userDir | log | output | format | debounce => true
  | verbose | help | version | strict | requireAll | denyWarnings => false

/-- The options common to all commands. -/
def common : List OptionName := [config, partsDir, userDir, verbose, log]

end OptionName

/-- The names of commands. -/
inductive CommandName where
  | compose
  | check
  | defaults
  | watch
  deriving DecidableEq

namespace CommandName

/-- All commands. -/
def all : List CommandName := [compose, check, defaults, watch]

/-- The word for a command. -/
def text : CommandName → String
  | compose => "compose"
  | check => "check"
  | defaults => "defaults"
  | watch => "watch"

/-- The command that a word names. -/
def ofText? (s : String) : Option CommandName :=
  all.find? fun command => command.text = s

/-- The options of a command. -/
def options : CommandName → List OptionName
  | compose => [.output, .format, .strict, .requireAll] ++ OptionName.common ++ [.help]
  | check => [.format, .denyWarnings] ++ OptionName.common ++ [.help]
  | defaults => [.format] ++ OptionName.common ++ [.help]
  | watch => [.output, .format, .debounce] ++ OptionName.common ++ [.help]

end CommandName

/-! ## Results -/

/-- Why arguments are not carried out. Help and version are answers of this sort too. -/
inductive UsageFault where
  | displayHelp
  | displayVersion
  | invalidValue
  | valueValidation
  | argumentConflict
  | tooManyValues
  | unknownArgument
  | invalidSubcommand
  deriving DecidableEq

namespace UsageFault

/-- The name of a fault. -/
def name : UsageFault → String
  | displayHelp => "DisplayHelp"
  | displayVersion => "DisplayVersion"
  | invalidValue => "InvalidValue"
  | valueValidation => "ValueValidation"
  | argumentConflict => "ArgumentConflict"
  | tooManyValues => "TooManyValues"
  | unknownArgument => "UnknownArgument"
  | invalidSubcommand => "InvalidSubcommand"

/-- The exit code of a run that ends with the fault. -/
def exitCode : UsageFault → Nat
  | displayHelp | displayVersion => 0
  | _ => 2

end UsageFault

/-- How to compose a schema. -/
structure ComposeOptions where
  output : Option Path := none
  format : Option OutputFormat := none
  strict : Bool := false
  requireAll : Bool := false
  deriving DecidableEq

/-- How to check fragments. -/
structure CheckOptions where
  format : Option OutputFormat := none
  denyWarnings : Bool := false
  deriving DecidableEq

/-- How to watch fragments. -/
structure WatchOptions where
  output : Option Path := none
  format : Option OutputFormat := none
  debounce : Nat
  deriving DecidableEq

/-- A command with its options. -/
inductive Command where
  | compose (options : ComposeOptions)
  | check (options : CheckOptions)
  | defaults (format : Option OutputFormat)
  | watch (options : WatchOptions)
  deriving DecidableEq

/-- The arguments of a run. -/
structure Arguments where
  config : Option String
  partsDir : Option String
  userDir : Option String
  verbose : Bool
  log : String
  command : Option Command
  deriving DecidableEq

end LayeredSchema
