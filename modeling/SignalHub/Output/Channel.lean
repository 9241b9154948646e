import SignalHub.Output.HostFile
import SignalHub.Output.Screen
import SignalHub.Output.Stream
import SignalHub.Trace

/-!
# The output channel

Printing goes to the current target.  Without one the first print installs
standard output.  A new target takes over after the old one was flushed,
written out once more and closed; whether that worked does not matter to the
caller.
-/

namespace SignalHub.Output

open Text

inductive Target where
  | screen
  | stream (stream : Stream)
  | file (name : String)
deriving DecidableEq, Repr

structure Channel where
  target : Option Target
deriving DecidableEq, Repr

/-- What the targets of a process share: its standard output and the files
that its host opened. -/
structure Ports where
  screen : Screen
  files : List (String × HostFile)
deriving DecidableEq, Repr

namespace Ports

/-- Nothing printed and no file open. -/
def fresh : Ports :=
  ⟨⟨[]⟩, []⟩

def file? (ports : Ports) (name : String) : Option HostFile :=
  (ports.files.find? fun entry => entry.1 == name).map Prod.snd

/-- The file of a name; one that nobody opened takes everything. -/
def file (ports : Ports) (name : String) : HostFile :=
  (ports.file? name).getD (HostFile.onto Device.boundless none true)

/-- Opens a file, or puts it into a new state. -/
def setFile (ports : Ports) (name : String) (file : HostFile) : Ports :=
  if ports.files.any fun entry => entry.1 == name then
    { ports with
        files := ports.files.map fun entry =>
          if entry.1 == name then (name, file) else entry }
  else { ports with files := ports.files ++ [(name, file)] }

end Ports

/-- The record of a flush that failed, by the part of the program that
notices. -/
def flushRecord (target : String) (fault : Fault) : Record :=
  ⟨.debug, target,
    "Failed to flush the vm output stream: " ++ fault.text, none⟩

namespace Channel

/-- No target yet. -/
def unset : Channel :=
  ⟨none⟩

def isConfigured (channel : Channel) : Bool :=
  channel.target.isSome

/-- Where the next print goes. -/
def current (channel : Channel) : Target :=
  channel.target.getD .screen

/-- The outcome of printing: the number of bytes, or the fault. -/
def outcome (data : Bytes) (fault : Option Fault) : Except Fault Nat :=
  match fault with
  | some cause => .error cause
  | none => .ok data.length

/-- Prints data to the current target, which is installed from then on. -/
def print (channel : Channel) (ports : Ports) (data : Bytes) :
    Channel × Ports × Trace × Except Fault Nat :=
  match channel.current with
  | .screen =>
      (⟨some .screen⟩, { ports with screen := ports.screen.print data },
        [.shown data], .ok data.length)
  | .stream stream =>
      let (after, transfers, fault) := stream.print data
      (⟨some (.stream after)⟩, ports, transfers.map .transfer,
        outcome data fault)
  | .file name =>
      let (after, fault) := (ports.file name).print data
      (⟨some (.file name)⟩, ports.setFile name after, [], outcome data fault)

/-- Flushes the current target. -/
def flush (channel : Channel) (ports : Ports) :
    Channel × Ports × Trace × Option Fault :=
  match channel.current with
  | .screen =>
      (channel, { ports with screen := ports.screen.flush }, [], none)
  | .stream stream =>
      let (after, transfers, fault) := stream.flush
      (⟨some (.stream after)⟩, ports, transfers.map .transfer, fault)
  | .file name =>
      let (after, fault) := (ports.file name).flush
      (channel, ports.setFile name after, [], fault)

/-- The end of a target.  Only a stream has one. -/
def dismiss (channel : Channel) : Trace :=
  match channel.target with
  | some (.stream stream) => stream.close.2.map .transfer
  | _ => []

/-- Hands over to a new target. -/
def replace (channel : Channel) (ports : Ports) (target : Option Target) :
    Channel × Ports × Trace :=
  let (flushed, ports, trace, fault) := channel.flush ports
  let noted :=
    match fault with
    | some cause => [.record (flushRecord "vm_diagnostics::output" cause)]
    | none => []
  (⟨target⟩, ports, trace ++ noted ++ flushed.dismiss)

end Channel

end SignalHub.Output
