import SignalHub.CommandLine.Request
import SignalHub.Text.Integer
import SignalHub.Text.Plain
import SignalHub.Text.Style

/-!
# Faults of usage

Why arguments are no request.
-/

namespace SignalHub.CommandLine

open Text

inductive UsageFault where
  | unknownCommand (given : String)
  | unexpectedArgument (given : String)
  | missingArguments
  | missingCommand
  | missingValue (parameter : Parameter)
  | surplusValue (given : String) (switch : Switch)
  | repeated (label : String)
  | notInteger (given : String) (parameter : Parameter)
      (fault : IntegerFault)
  | notText
deriving DecidableEq, Repr

/-- The name that the program is called by. -/
def programName : String := "vm_diagnostics-cli"

/-- A part of a message about usage: words of the message, what is wrong with
the arguments, or the name of what they are for. -/
inductive Part where
  | words (text : String)
  | wrong (text : String)
  | name (text : String)
deriving DecidableEq, Repr

namespace Part

def text : Part → String
  | .words text | .wrong text | .name text => text

/-- The styles of a part, in the order in which they are opened. -/
def styles : Part → List Style
  | .words _ => []
  | .wrong _ => [Style.yellow]
  | .name _ => [Style.bold]

def styled (part : Part) : String :=
  Style.opening part.styles part.text

end Part

namespace UsageFault

/-- The message in parts. -/
def parts : UsageFault → List Part
  | .unknownCommand given =>
      [.words "unrecognized subcommand '", .wrong given, .words "'"]
  | .unexpectedArgument given =>
      [.words "unexpected argument '", .wrong given, .words "' found"]
  | .missingArguments =>
      [.words "the following required arguments were not provided:"]
  | .missingCommand =>
      [.words "'", .wrong programName,
        .words "' requires a subcommand but one was not provided"]
  | .missingValue parameter =>
      [.words "a value is required for '", .wrong parameter.label,
        .words "' but none was supplied"]
  | .surplusValue given switch =>
      [.words "unexpected value '", .wrong given, .words "' for '",
        .name (longForm switch.name),
        .words "' found; no more were expected"]
  | .repeated label =>
      [.words "the argument '", .wrong label,
        .words "' cannot be used multiple times"]
  | .notInteger given parameter fault =>
      [.words "invalid value '", .wrong given, .words "' for '",
        .name parameter.label, .words ("': " ++ fault.text)]
  | .notText =>
      [.words "invalid UTF-8 was detected in one or more arguments"]

/-- The message without styles. -/
def text (fault : UsageFault) : String :=
  String.join (fault.parts.map Part.text)

/-- The message as it is written.  Where styles are not wanted they are taken
out, with all else that a terminal would obey. -/
def line (fault : UsageFault) (emphasised : Bool) : String :=
  let styled :=
    Style.opening [Style.bold, Style.red] "error:" ++ " " ++
      String.join (fault.parts.map Part.styled)
  if emphasised then styled else plain styled

end UsageFault

/-- Why reading arguments ends without a request.  Whoever gives no arguments
at all needs the guide, like whoever asks for it. -/
inductive Stop where
  | fault (fault : UsageFault)
  | guideNeeded
  | guideWanted
deriving DecidableEq, Repr

end SignalHub.CommandLine
