import SignalHub.Bounded
import SignalHub.Output.Channel
import SignalHub.Text.Style

/-!
# Hubs and their host

A hub has at most one sink, one filter and one status printer, and an output
channel.  The host is the process around: the shared hub, a hub of the
caller's own, the ports, and what the host's own functions will do when they
are called.
-/

namespace SignalHub

open Output Text

/-- What a function of the host does from inside a call of the hub: it prints
on the shared hub, emits on it, or polls its buffer, and it may do any number of
these one after the other. -/
inductive Action where
  | print (text : String)
  | emit (category : String) (origin : Origin) (text : String)
  | poll
  | nothing
  | both (first second : Action)
deriving DecidableEq, Repr

structure StatusPrinter where
  party : Party
  actions : List Action
deriving DecidableEq, Repr

structure Hub where
  sink : Option Sink
  filter : Option Filter
  channel : Channel
  statusPrinter : Option StatusPrinter

namespace Hub

/-- Nothing registered. -/
def fresh : Hub :=
  ⟨none, none, Channel.unset, none⟩

/-- The signals waiting in the hub's buffer, if its sink has one. -/
def waiting? (hub : Hub) : Option (List Signal) :=
  hub.sink.bind Sink.waiting?

end Hub

/-- The process.  Callbacks and foreign sinks take their actions from one
script, one for each signal; `paint` and `clock` are the console's styles and
time. -/
structure Host where
  shared : Hub
  own : Hub
  ports : Ports
  script : List Action
  acceptance : Acceptance
  paint : Bool
  clock : String

namespace Host

def fresh (paint : Bool) (clock : String) : Host :=
  ⟨Hub.fresh, Hub.fresh, Ports.fresh, [], none, paint, clock⟩

def hub (host : Host) : Scope → Hub
  | .shared => host.shared
  | .own => host.own

def setHub (host : Host) : Scope → Hub → Host
  | .shared, hub => { host with shared := hub }
  | .own, hub => { host with own := hub }

def setSink (host : Host) (scope : Scope) (sink : Option Sink) : Host :=
  host.setHub scope { host.hub scope with sink }

def setFilter (host : Host) (scope : Scope) (filter : Option Filter) : Host :=
  host.setHub scope { host.hub scope with filter }

def setStatusPrinter (host : Host) (scope : Scope)
    (statusPrinter : Option StatusPrinter) : Host :=
  host.setHub scope { host.hub scope with statusPrinter }

def setChannel (host : Host) (scope : Scope) (channel : Channel) : Host :=
  host.setHub scope { host.hub scope with channel }

@[simp]
theorem hub_setHub (host : Host) (scope : Scope) (hub : Hub) :
    (host.setHub scope hub).hub scope = hub := by
  cases scope <;> rfl

theorem hub_setHub_of_ne (host : Host) {scope other : Scope}
    (different : other ≠ scope) (hub : Hub) :
    (host.setHub scope hub).hub other = host.hub other := by
  cases scope <;> cases other <;> simp_all [Host.hub, setHub]

end Host

namespace Trace

/-- A call on the shared hub runs as one of its readers; a hub of the
caller's own needs no lock. -/
def reading (scope : Scope) (trace : Trace) : Trace :=
  match scope with
  | .shared => .lock .share :: trace ++ [.lock .unshare]
  | .own => trace

/-- Registration on the shared hub excludes its readers. -/
def writing (scope : Scope) (trace : Trace) : Trace :=
  match scope with
  | .shared => .lock .claim :: trace ++ [.lock .unclaim]
  | .own => trace

/-- What happens while a mutex is held. -/
def holding (mutex : Mutex) (trace : Trace) : Trace :=
  .lock (.hold mutex) :: trace ++ [.lock (.letGo mutex)]

end Trace

end SignalHub
