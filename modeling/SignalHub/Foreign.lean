import SignalHub.CrashDump
import SignalHub.Host.Emission
import SignalHub.Version.Build

/-!
# Calls from the foreign side

The functions that a foreign host links against.  All work on the shared hub.
Strings arrive terminated or missing, numbers signed; a failure is a number or
a record, never more.
-/

namespace SignalHub.Foreign

open Output Text

/-- A string of the foreign side. -/
abbrev ForeignString := Option Bytes

/-- Where a foreign caller says that it is. -/
def originOf (file function : ForeignString) (line : Int) : Origin :=
  ⟨incoming file, incoming function, lineIn line⟩

/-- The record of a print that failed. -/
def printRecord : Record :=
  ⟨.debug, "vm_diagnostics::ffi", "vm_printf failed: " ++ Fault.printMessage,
    none⟩

/-- Where a fatal error reported by the foreign side is said to come from: the
call that takes it, wherever the text of the program has it. -/
def fatalOrigin (file : String) (line : Nat) : Origin :=
  ⟨file, "vm_diagnostics::ffi", line⟩

/-- Registers the foreign function as sink, with the script of what it will
do, or removes the sink. -/
def setSink (host : Host) (present : Bool) (script : List Action) :
    Host × Trace :=
  ({ host with script }.setSink .shared (if present then some .foreign else none),
    Trace.writing .shared [])

/-- Registers the foreign function as filter, with what it will accept, or
removes the filter. -/
def setFilter (host : Host) (present : Bool) (acceptance : Acceptance) :
    Host × Trace :=
  ({ host with acceptance }.setFilter .shared
      (if present then some .foreign else none),
    Trace.writing .shared [])

def setStatusPrinter (host : Host) (present : Bool) (actions : List Action) :
    Host × Trace :=
  (host.setStatusPrinter .shared
      (if present then some ⟨.foreign, actions⟩ else none),
    Trace.writing .shared [])

/-- Emits a message of any category. -/
def emit (host : Host) (category file function : ForeignString) (line : Int)
    (message : ForeignString) : Host × Trace :=
  host.emit .shared (incoming category) (originOf file function line)
    (Message.text (incoming message))

/-- Emits a message by severity.  An index outside of the table leaves a
record and nothing else. -/
def emitBySeverity (host : Host) (level : Int) (file function : ForeignString)
    (line : Int) (message : ForeignString) : Host × Trace :=
  match Severity.ofIndex level with
  | .error fault => (host, [.record (Record.invalidSeverity fault)])
  | .ok severity =>
      host.emitBySeverity .shared severity (originOf file function line)
        (Message.text (incoming message))

def emitAssertion (host : Host) (file function : ForeignString) (line : Int)
    (message : ForeignString) : Host × Trace :=
  host.emitAssertion .shared (originOf file function line) (incoming message)

/-- Emits a message with the description of the system's fault that was
current when the call was entered. -/
def emitSystemFault (host : Host) (level : Int)
    (message file function : ForeignString) (line : Int) (code : Int) :
    Host × Trace :=
  match Severity.ofIndex level with
  | .error fault => (host, [.record (Record.invalidSeverity fault)])
  | .ok severity =>
      host.emitSystemFault .shared severity (incoming message) code
        (originOf file function line)

/-- The level that the foreign side is told, whatever it sets. -/
def level : Nat := Severity.trace.index

/-- Whether the foreign side is told that it debugs. -/
def debugs : Nat := 0

/-- The greatest number of bytes that a print can report. -/
def printMaximum : Nat := 2147483647

/-- Prints a string: the number of bytes, or -1 and a record. -/
def print (host : Host) (message : ForeignString) : Host × Trace × Int :=
  match host.printReading .shared (Message.text (incoming message)) with
  | (after, trace, .ok count) =>
      (after, Trace.reading .shared trace, (min count printMaximum : Nat))
  | (after, trace, .error _) =>
      (after, Trace.reading .shared (trace ++ [.record printRecord]), -1)

/-- Makes a file of the host the current target, opening it as `file` if it is
new; without one standard output is used again. -/
def setStream (host : Host) (stream : Option (String × HostFile)) :
    Host × Trace :=
  match stream with
  | none => host.setOutput .shared none
  | some (name, file) =>
      let ports :=
        match host.ports.file? name with
        | some _ => host.ports
        | none => host.ports.setFile name file
      { host with ports }.setOutput .shared (some (.file name))

/-- Reports an error that cannot be survived, from a place of the program. -/
def fatal (host : Host) (message : ForeignString) (file : String)
    (line : Nat) : Host × Trace :=
  host.fatal .shared (fatalOrigin file line) (incoming message)

/-- The description of the build as a terminated string. -/
def versionText (build : Build) (verbose : Int) : String :=
  outgoing (build.describe (verbose != 0))

/-- The buffer after the name of the crash dump was appended in it. -/
def crashDumpName (buffer : Option Bytes) : Option Bytes :=
  buffer.map CrashDump.appendInto

end SignalHub.Foreign
