import SignalHub.Host.Printing
import SignalHub.Text.Property
import SignalHub.Text.Terminated

/-!
# Emission

A message becomes a signal only if the hub has a sink and a filter and the
filter accepts the category.  Only then is it formatted, bounded, and handed
to the sink.  Functions of the host that are called on the way may print and
emit again; each takes one action from the script, so that the nested calls end
with the script.
-/

namespace SignalHub

open Output Text

/-- A line of the console: time, category, position and trimmed message. -/
def consoleLine (paint : Bool) (clock : String) (signal : Signal) : String :=
  Style.faint.apply paint clock ++ " " ++
    Style.faintBold.apply paint signal.category ++ " " ++
    Style.faint.apply paint signal.origin.position ++ " - " ++
    trim signal.message ++ "\n"

/-- A signal as the foreign side receives it. -/
def Signal.outgoing (signal : Signal) : Signal :=
  { category := Text.outgoing signal.category
    origin :=
      { file := Text.outgoing signal.origin.file
        function := Text.outgoing signal.origin.function
        line := lineOut signal.origin.line }
    message := Text.outgoing signal.message }

/-- The question as it reaches a function of the host, if the filter is
one. -/
def Filter.passedOn (filter : Filter) (category : String) : Trace :=
  match filter with
  | .closure _ => [.asked .native category]
  | .foreign => [.asked .foreign (outgoing category)]
  | _ => []

namespace Host

/-- Asks a filter about a category.  Some filters put the question to a
function of the host. -/
def ask (host : Host) (filter : Filter) (category : String) : Bool × Trace :=
  (filter.accepts host.acceptance category,
    .question filter category :: filter.passedOn category)

/-- Whether signals of a category would reach the sink now. -/
def wants (host : Host) (scope : Scope) (category : String) : Bool × Trace :=
  let hub := host.hub scope
  match hub.sink with
  | none => (false, [])
  | some _ =>
      match hub.filter with
      | none => (false, [])
      | some filter => host.ask filter category

/-- The sink that a signal of a category goes to, if any. -/
def gate (host : Host) (scope : Scope) (category : String) :
    Option Sink × Trace :=
  let hub := host.hub scope
  match hub.sink, hub.filter with
  | some sink, some filter =>
      let (answer, trace) := host.ask filter category
      (if answer then some sink else none, trace)
  | _, _ => (none, [])

/-- Empties the buffer of a hub; without one there is nothing to poll. -/
def pollBuffer (host : Host) (scope : Scope) :
    Host × Trace × Option (List Signal) :=
  match (host.hub scope).sink with
  | some (.buffering waker waiting) =>
      (host.setSink scope (some (.buffering waker [])),
        Trace.holding (.buffer scope) [], some waiting)
  | _ => (host, [], none)

/-- Polls the shared hub from inside of a call. -/
def pollAction (host : Host) : Host × Trace :=
  let (after, trace, polled) := host.pollBuffer .shared
  (after, Trace.reading .shared trace ++ [.polled (polled.getD [])])

/-- The waker looks at the buffer of the shared hub. -/
def wake (host : Host) : Trace :=
  match host.shared.waiting? with
  | some waiting =>
      Trace.reading .shared (Trace.holding (.buffer .shared) []) ++
        [.woken (some waiting.length)]
  | none => Trace.reading .shared [] ++ [.woken none]

/-- A signal goes into the buffer, and the waker runs once the buffer is
free. -/
def buffer (host : Host) (scope : Scope) (waker : Option Waker)
    (waiting : List Signal) (signal : Signal) : Host × Trace :=
  let after :=
    host.setSink scope (some (.buffering waker (waiting ++ [signal])))
  (after,
    Trace.holding (.buffer scope) [] ++
      match waker with
      | some _ => after.wake
      | none => [])

/-- What a sink itself does with a signal. -/
def receive (host : Host) (scope : Scope) (sink : Sink) (signal : Signal) :
    Host × Trace :=
  match sink with
  | .discarding => (host, [])
  | .buffering waker waiting => host.buffer scope waker waiting signal
  | .console =>
      let line := bytes (consoleLine host.paint host.clock signal)
      ({ host with
          ports.screen := host.ports.screen.print line },
        [.shown line])
  | .journal => (host, [.record (Record.ofSignal signal)])
  | .callback => (host, [.received .native signal])
  | .foreign => (host, [.received .foreign signal.outgoing])

/-- Performs an action.  How the emissions in it are made is left open. -/
def performBy
    (emitting : Host → String → Origin → Message → Host × Trace)
    (host : Host) : Action → Host × Trace
  | .print text => host.printAction text
  | .emit category origin text =>
      emitting host category origin (Message.text text)
  | .poll => host.pollAction
  | .nothing => (host, [])
  | .both first second =>
      let (middle, early) := host.performBy emitting first
      let (last, late) := middle.performBy emitting second
      (last, early ++ late)

/-- Emits a message.  The sink, and the sinks of all emissions that are made
from inside of it, take at most so many actions from the script. -/
def emitWithin : Nat → Host → Scope → String → Origin → Message →
    Host × Trace
  | turns, host, scope, category, origin, message =>
      match host.gate scope category with
      | (none, asked) => (host, asked)
      | (some sink, asked) =>
          let formatted := message.program.runBounded messageSize
          let signal : Signal := ⟨category, origin, formatted.buffer.text⟩
          let begun : Trace :=
            asked ++
              [.formatted formatted.taken message.announced,
                .delivery sink signal]
          let (received, taken) := host.receive scope sink signal
          if sink.acts then
            match turns, received.script with
            | turns + 1, action :: rest =>
                let emitting (host : Host) (category : String)
                    (origin : Origin) (message : Message) : Host × Trace :=
                  let (after, trace) :=
                    emitWithin turns host .shared category origin message
                  (after, Trace.reading .shared trace)
                let (last, trace) :=
                  { received with script := rest }.performBy emitting action
                (last, begun ++ taken ++ trace)
            | _, _ => (received, begun ++ taken)
          else (received, begun ++ taken)

/-- Emits a message from inside of a reader.  No emission takes more actions
than the script has. -/
def emitReading (host : Host) (scope : Scope) (category : String)
    (origin : Origin) (message : Message) : Host × Trace :=
  emitWithin host.script.length host scope category origin message

/-- Emits a message as a call of its own. -/
def emit (host : Host) (scope : Scope) (category : String) (origin : Origin)
    (message : Message) : Host × Trace :=
  let (after, trace) := host.emitReading scope category origin message
  (after, Trace.reading scope trace)

/-- Emits a message under the name of a severity. -/
def emitBySeverity (host : Host) (scope : Scope) (severity : Severity)
    (origin : Origin) (message : Message) : Host × Trace :=
  host.emit scope severity.name origin message

/-- A failed assertion is a warning. -/
def emitAssertion (host : Host) (scope : Scope) (origin : Origin)
    (text : String) : Host × Trace :=
  host.emitBySeverity scope .warning origin (Message.text text)

end Host

/-- A text followed by the description of a fault of the system. -/
def Message.systemFault (text : String) (code : Int) : Message :=
  ⟨((Formatter.text text).followedBy (Formatter.text ": ")).followedBy
      (Formatter.text (systemFaultText code)), false⟩

namespace Host

/-- Emits a text with the description of a fault of the system. -/
def emitSystemFault (host : Host) (scope : Scope) (severity : Severity)
    (text : String) (code : Int) (origin : Origin) : Host × Trace :=
  host.emitBySeverity scope severity origin (Message.systemFault text code)

/-- Performs an action, each emission in it being a call of its own. -/
def perform (host : Host) (action : Action) : Host × Trace :=
  host.performBy (fun within => within.emit .shared) action

/-- Performs actions in order. -/
def performAll (host : Host) : List Action → Host × Trace
  | [] => (host, [])
  | action :: rest =>
      let (after, trace) := host.perform action
      let (last, more) := after.performAll rest
      (last, trace ++ more)

/-- Runs the status printer, if one is registered. -/
def printStatus (host : Host) (scope : Scope) : Host × Trace :=
  match (host.hub scope).statusPrinter with
  | none => (host, [])
  | some printer =>
      let (after, trace) := host.performAll printer.actions
      (after, .status printer.party :: trace)

/-- All that precedes an abort: the message as an error, the status, and one
flush of the output.  The reader's lock is never given back. -/
def fatal (host : Host) (scope : Scope) (origin : Origin) (text : String) :
    Host × Trace :=
  let (emitted, emission) :=
    host.emitReading scope Severity.error.name origin (Message.text text)
  let (reported, status) := emitted.printStatus scope
  let (flushed, flushing, fault) := reported.flushOutput scope
  let noted : Trace :=
    match fault with
    | some cause => [.record (flushRecord "vm_diagnostics::diagnostics" cause)]
    | none => []
  let entry : Trace :=
    match scope with
    | .shared => [.lock .share]
    | .own => []
  (flushed, entry ++ emission ++ status ++ flushing ++ noted)

end Host

end SignalHub
