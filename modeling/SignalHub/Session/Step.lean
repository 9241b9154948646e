import SignalHub.Foreign

/-!
# Steps of a session

Everything that a caller can ask a hub for, on one side or the other of the
foreign boundary, and what comes back.
-/

namespace SignalHub

open Output Text

/-- A call from the foreign side.  A fatal error is reported from a place of the
program; the one that is written here stands for a place that nobody asks for. -/
inductive ForeignCall where
  | setSink (present : Bool) (script : List Action)
  | setFilter (present : Bool) (acceptance : Acceptance)
  | setStatusPrinter (present : Bool) (actions : List Action)
  | emit (category file function : Option Bytes) (line : Int)
      (message : Option Bytes)
  | emitBySeverity (level : Int) (file function : Option Bytes) (line : Int)
      (message : Option Bytes)
  | emitAssertion (file function : Option Bytes) (line : Int)
      (message : Option Bytes)
  | emitSystemFault (level : Int) (message file function : Option Bytes)
      (line : Int) (code : Int)
  | setLevel (level : Int)
  | level
  | debugs
  | versionText (verbose : Int)
  | freeVersionText
  | crashDumpName (buffer : Option Bytes)
  | setStream (stream : Option (String × HostFile))
  | print (message : Option Bytes)
  | fileContent (name : String)
  | fatal (message : Option Bytes) (file : String := "<ffi>")
      (line : Nat := 0)
deriving DecidableEq, Repr

inductive Step where
  | setSink (sink : Option Sink) (script : Option (List Action))
  | setFilter (filter : Option Filter) (acceptance : Option Acceptance)
  | setOutput (target : Option Target)
  | setStatusPrinter (actions : Option (List Action))
  | setMaximum (maximum : Verbosity)
  | hasSink
  | hasFilter
  | wants (category : String)
  | sinkIs (kind : SinkKind)
  | emit (category : String) (origin : Origin) (message : Message)
  | emitBySeverity (level : Int) (origin : Origin) (message : Message)
  | emitAssertion (origin : Origin) (text : String)
  | emitSystemFault (level : Int) (text : String) (code : Int)
      (origin : Origin)
  | print (message : Message)
  | flush
  | isConfigured
  | poll
  | bufferState
  | describe
  | describeOutput
  | fatal (origin : Origin) (message : Message)
  | foreign (call : ForeignCall)

/-- The buffer of a sink as seen from outside. -/
structure BufferState where
  waiting : Nat
  waking : Bool
deriving DecidableEq, Repr

inductive Reply where
  | nothing
  | truth (value : Bool)
  | number (value : Int)
  | text (value : String)
  | bytes (value : Bytes)
  | signals (value : List Signal)
  | buffer (state : BufferState)
  | refused (fault : CallFault)
  | aborted
deriving DecidableEq, Repr

namespace Reply

/-- The reply of a call that gives nothing back. -/
def ofFault : Option Fault → Reply
  | none => .nothing
  | some fault => .refused (.output fault)

/-- The reply of printing. -/
def ofCount : Except CallFault Nat → Reply
  | .ok count => .number count
  | .error fault => .refused fault

end Reply

end SignalHub
