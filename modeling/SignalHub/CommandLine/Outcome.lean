import SignalHub.CommandLine.Surroundings
import SignalHub.CommandLine.UsageFault
import SignalHub.Host.Emission
import SignalHub.Journal.Line

/-!
# Outcomes

How a run of the program ends, and what is seen of it: an exit code, what went
to standard output and standard error, and what reached the output file.
-/

namespace SignalHub.CommandLine

open Output Text

/-- Why a request could not be fulfilled. -/
inductive Failure where
  | severity (fault : InvalidSeverity)
  | system (fault : Fault)
  | printing (fault : Fault)
deriving DecidableEq, Repr

/-- A failure in lines, its cause below it if there is one. -/
def Failure.lines : Failure → List String
  | .severity fault => ["Error: " ++ fault.message]
  | .system fault => ["Error: " ++ fault.text]
  | .printing fault =>
      ["Error: " ++ Fault.printMessage, "", "Caused by:",
        "    " ++ fault.text]

inductive Ending where
  | success
  | failed (failure : Failure)
  | stopped (stop : Stop)
  | aborted
deriving DecidableEq, Repr

/-- What the program is for and how it is called. -/
def guide : List String :=
  ["Emit diagnostics through the virtual machine logging facade", "",
    "Usage: " ++ programName ++ " [OPTIONS] <COMMAND>"]

namespace Ending

/-- The code that the process ends with, unless it aborts. -/
def code? : Ending → Option Nat
  | .success | .stopped .guideWanted => some 0
  | .failed _ => some 1
  | .stopped _ => some 2
  | .aborted => none

/-- What the ending adds to standard error. -/
def lines (emphasised : Bool) : Ending → List String
  | .success | .aborted | .stopped .guideWanted => []
  | .failed failure => failure.lines
  | .stopped .guideNeeded => guide
  | .stopped (.fault fault) => [fault.line emphasised]

end Ending

/-- Lines as they are written. -/
def written (lines : List String) : String :=
  String.join (lines.map (· ++ "\n"))

/-- What the status printer shows. -/
def statusLines (build : Build) : List String :=
  ["Virtual machine status:", build.describe false]

/-- The host that a run leaves behind, everything that happened, where prints
went if a file was opened for them, and the ending. -/
structure Outcome where
  host : Host
  trace : Trace
  destination : Option Destination
  ending : Ending

namespace Outcome

def code? (outcome : Outcome) : Option Nat :=
  outcome.ending.code?

/-- What an event writes to the opened file. -/
def filed : Event → Bytes
  | .transfer (.wrote _ data) => data
  | _ => []

/-- What an event puts on standard output. -/
def shownBy (destination : Option Destination) (event : Event) : Bytes :=
  match event with
  | .shown data => data
  | other =>
      if destination = some .standardOutput then filed other else []

/-- What has reached standard output: everything, or at an abort what was not
waiting. -/
def shown (outcome : Outcome) : Bytes :=
  let all := outcome.trace.flatMap (shownBy outcome.destination)
  match outcome.ending with
  | .aborted =>
      all.take (all.length - outcome.host.ports.screen.waiting.length)
  | _ => all

/-- What an event puts on standard error. -/
def notedBy (surroundings : Surroundings)
    (destination : Option Destination) : Event → String
  | .record record =>
      if surroundings.journal.1.shows record then
        record.line surroundings.stamp surroundings.paintsJournal
      else ""
  | .status _ => written (statusLines surroundings.build)
  | other =>
      if destination = some .standardError then decode (filed other) else ""

/-- Standard error: complaints about the directives, then what events put
there, then the ending. -/
def errors (surroundings : Surroundings) (outcome : Outcome) : String :=
  written surroundings.journal.2 ++
    String.join
      (outcome.trace.map (notedBy surroundings outcome.destination)) ++
    written (outcome.ending.lines surroundings.emphasises)

/-- The bytes that the output file accepted, if one was opened. -/
def file? (outcome : Outcome) : Option Bytes :=
  match outcome.host.shared.channel.target with
  | some (.stream stream) => some stream.device.content
  | _ => none

/-- The files that a run leaves in a working directory that was empty
before. -/
def files (outcome : Outcome) : List (Bytes × Bytes) :=
  match outcome.destination, outcome.file? with
  | some (.named name), some content => [(name, content)]
  | _, _ => []

end Outcome

end SignalHub.CommandLine
