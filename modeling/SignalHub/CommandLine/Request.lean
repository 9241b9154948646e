import SignalHub.Text.Utf8

/-!
# Requests

What a command line asks for: options that hold for every command, and one
command with its values.  Switches, parameters and commands are named as they
are written.
-/

namespace SignalHub.CommandLine

open Text

/-- What is given or left out, without a value. -/
inductive Switch where
  | all
  | forward
  | verbose
  | report
  | help
deriving DecidableEq, Repr

def Switch.name : Switch → String
  | .all => "all"
  | .forward => "forward"
  | .verbose => "verbose"
  | .report => "report"
  | .help => "help"

/-- A name as it is written in front of a value or alone. -/
def longForm (name : String) : String :=
  "--" ++ name

/-- What takes a value. -/
inductive Parameter where
  | enable
  | output
  | category
  | level
  | message
  | directory
deriving DecidableEq, Repr

namespace Parameter

/-- The name of a parameter whose value follows its name. -/
def name? : Parameter → Option String
  | .enable => some "enable"
  | .output => some "output"
  | _ => none

/-- How a parameter is shown. -/
def label : Parameter → String
  | .enable => "--enable <CATEGORY>"
  | .output => "--output <FILE>"
  | .category => "<CATEGORY>"
  | .level => "<LEVEL>"
  | .message => "<MESSAGE>"
  | .directory => "[DIRECTORY]"

end Parameter

inductive CommandName where
  | version
  | log
  | severity
  | printf
  | crashDump
  | fatal
  | help
deriving DecidableEq, Repr

namespace CommandName

def text : CommandName → String
  | .version => "version"
  | .log => "log"
  | .severity => "severity"
  | .printf => "printf"
  | .crashDump => "crash-dump"
  | .fatal => "fatal"
  | .help => "help"

def all : List CommandName :=
  [.version, .log, .severity, .printf, .crashDump, .fatal, .help]

/-- The command that an argument names. -/
def ofArgument? (argument : Bytes) : Option CommandName :=
  all.find? fun name => bytes name.text == argument

end CommandName

/-- A command with its values. -/
inductive Command where
  | version (verbose report : Bool)
  | log (category message : String)
  | severity (level : Int) (message : String)
  | printf (message : String)
  | crashDump (directory : Option Bytes)
  | fatal (message : String)
deriving DecidableEq, Repr

/-- Which categories are enabled, where signals go, and where prints go. -/
structure Options where
  enable : List String
  all : Bool
  forward : Bool
  output : Option Bytes
deriving DecidableEq, Repr

structure Request where
  options : Options
  command : Command
deriving DecidableEq, Repr

end SignalHub.CommandLine
