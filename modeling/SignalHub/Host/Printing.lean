import SignalHub.Host.Hub

/-!
# Printing

Text for the output channel of a hub, which no filter sees.  A message whose
formatting fails stops the call before the channel is touched.
-/

namespace SignalHub

open Output Text

/-- Why a call did not do what it was asked for. -/
inductive CallFault where
  | invalidSeverity (fault : InvalidSeverity)
  | output (fault : Fault)
  | panic
deriving DecidableEq, Repr

namespace Host

/-- Puts bytes on the channel of a hub while its mutex is held. -/
def printBytes (host : Host) (scope : Scope) (data : Bytes) :
    Host × Trace × Except Fault Nat :=
  let (channel, ports, trace, result) :=
    (host.hub scope).channel.print host.ports data
  ({ host.setChannel scope channel with ports },
    Trace.holding (.channel scope) trace, result)

/-- Formats a message and prints it from inside of a reader. -/
def printReading (host : Host) (scope : Scope) (message : Message) :
    Host × Trace × Except CallFault Nat :=
  let formatted := message.program.collect
  let begun : Trace := [.formatted formatted.taken message.announced]
  if formatted.succeeded then
    let (after, trace, result) :=
      host.printBytes scope (bytes formatted.buffer)
    (after, begun ++ trace, result.mapError .output)
  else (host, begun, .error .panic)

/-- Formats a message and prints it as a call of its own. -/
def printMessage (host : Host) (scope : Scope) (message : Message) :
    Host × Trace × Except CallFault Nat :=
  let (after, trace, result) := host.printReading scope message
  (after, Trace.reading scope trace, result)

/-- Prints a text on the shared hub from inside of a call, and notes the
result. -/
def printAction (host : Host) (text : String) : Host × Trace :=
  let (after, trace, result) := host.printBytes .shared (bytes text)
  (after,
    Trace.reading .shared (.formatted 1 false :: trace) ++
      [.printed text result])

/-- Flushes the channel of a hub. -/
def flushOutput (host : Host) (scope : Scope) :
    Host × Trace × Option Fault :=
  let (channel, ports, trace, fault) :=
    (host.hub scope).channel.flush host.ports
  ({ host.setChannel scope channel with ports },
    Trace.holding (.channel scope) trace, fault)

/-- Makes a new target the channel's current one. -/
def replaceOutput (host : Host) (scope : Scope) (target : Option Target) :
    Host × Trace :=
  let (channel, ports, trace) :=
    (host.hub scope).channel.replace host.ports target
  ({ host.setChannel scope channel with ports },
    Trace.holding (.channel scope) trace)

/-- Registers a new target. -/
def setOutput (host : Host) (scope : Scope) (target : Option Target) :
    Host × Trace :=
  let (after, trace) := host.replaceOutput scope target
  (after, Trace.writing scope trace)

end Host

end SignalHub
