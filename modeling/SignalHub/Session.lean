import SignalHub.Session.Step

/-!
# Sessions

A caller works on one hub step by step.  Every step is answered by its reply
and by what was seen of its trace: the journal keeps back the records above
its maximum.  A fatal step is the last one, and what standard output had not
let go by then is lost.
-/

namespace SignalHub

open Output Text

/-- A host, the hub that steps are for, the journal's maximum, and the build
that the foreign side is told. -/
structure Session where
  host : Host
  scope : Scope
  maximum : Verbosity
  build : Build

/-- What is seen of a step.  The files are those of the host, when the process
ends. -/
structure Answer where
  reply : Reply
  trace : Trace
  shown : Bytes
  files : List (String × Bytes)

namespace Hub

/-- A truth value as it is written in descriptions. -/
def truth (value : Bool) : String :=
  if value then "true" else "false"

def describeChannel (channel : Channel) : String :=
  "VmOutput \x7b configured: " ++ truth channel.isConfigured ++ " \x7d"

def describe (hub : Hub) : String :=
  "Diagnostics \x7b logger: " ++ truth hub.sink.isSome ++
    ", should_log: " ++ truth hub.filter.isSome ++
    ", output: " ++ describeChannel hub.channel ++
    ", status_printer: " ++ truth hub.statusPrinter.isSome ++ " \x7d"

/-- The state of the hub's buffer, if its sink has one. -/
def bufferState? (hub : Hub) : Option BufferState :=
  match hub.sink with
  | some (.buffering waker waiting) => some ⟨waiting.length, waker.isSome⟩
  | _ => none

end Hub

namespace BufferState

def describe (state : BufferState) : String :=
  "BufferedLogger \x7b signals: " ++ toString state.waiting ++ ", waker: " ++
    Hub.truth state.waking ++ " \x7d"

end BufferState

namespace Host

/-- Reports a fatal error whose message must first be formatted; a message
that fails stops the call before anything was done. -/
def fatalMessage (host : Host) (scope : Scope) (origin : Origin)
    (message : Message) : Host × Trace × Reply :=
  let formatted := message.program.collect
  let begun : Trace := [.formatted formatted.taken message.announced]
  if formatted.succeeded then
    let (after, trace) := host.fatal scope origin formatted.buffer
    (after, begun ++ trace, .aborted)
  else (host, begun, .refused .panic)

/-- Answers a foreign call. -/
def answer (host : Host) (build : Build) :
    ForeignCall → Host × Trace × Reply
  | .setSink present script =>
      let (after, trace) := Foreign.setSink host present script
      (after, trace, .nothing)
  | .setFilter present acceptance =>
      let (after, trace) := Foreign.setFilter host present acceptance
      (after, trace, .nothing)
  | .setStatusPrinter present actions =>
      let (after, trace) := Foreign.setStatusPrinter host present actions
      (after, trace, .nothing)
  | .emit category file function line message =>
      let (after, trace) :=
        Foreign.emit host category file function line message
      (after, trace, .nothing)
  | .emitBySeverity level file function line message =>
      let (after, trace) :=
        Foreign.emitBySeverity host level file function line message
      (after, trace, .nothing)
  | .emitAssertion file function line message =>
      let (after, trace) :=
        Foreign.emitAssertion host file function line message
      (after, trace, .nothing)
  | .emitSystemFault level message file function line code =>
      let (after, trace) :=
        Foreign.emitSystemFault host level message file function line code
      (after, trace, .nothing)
  | .setLevel _ => (host, [], .nothing)
  | .level => (host, [], .number Foreign.level)
  | .debugs => (host, [], .number Foreign.debugs)
  | .versionText verbose =>
      (host, [], .text (Foreign.versionText build verbose))
  | .freeVersionText => (host, [], .nothing)
  | .crashDumpName buffer =>
      (host, [],
        match Foreign.crashDumpName buffer with
        | some content => .bytes content
        | none => .nothing)
  | .setStream stream =>
      let (after, trace) := Foreign.setStream host stream
      (after, trace, .nothing)
  | .print message =>
      let (after, trace, count) := Foreign.print host message
      (after, trace, .number count)
  | .fileContent name =>
      (host, [], .bytes (host.ports.file name).device.content)
  | .fatal message file line =>
      let (after, trace) := Foreign.fatal host message file line
      (after, trace, .aborted)

end Host

namespace Session

/-- A session on a fresh host. -/
def fresh (scope : Scope) (paint : Bool) (clock : String) (build : Build) :
    Session :=
  ⟨Host.fresh paint clock, scope, .off, build⟩

def hub (session : Session) : Hub :=
  session.host.hub session.scope

/-- A call by severity: an index outside of the table is refused. -/
def bySeverity (session : Session) (level : Int)
    (call : Severity → Host × Trace) : Session × Trace × Reply :=
  match Severity.ofIndex level with
  | .error fault => (session, [], .refused (.invalidSeverity fault))
  | .ok severity =>
      let (host, trace) := call severity
      ({ session with host }, trace, .nothing)

/-- Performs a step: what it leaves behind, everything that happened, and the
reply. -/
def perform (session : Session) : Step → Session × Trace × Reply
  | .setSink sink script =>
      let host := session.host.setSink session.scope sink
      ({ session with
          host := { host with script := script.getD host.script } },
        Trace.writing session.scope [], .nothing)
  | .setFilter filter acceptance =>
      let host := session.host.setFilter session.scope filter
      ({ session with
          host :=
            { host with acceptance := acceptance.getD host.acceptance } },
        Trace.writing session.scope [], .nothing)
  | .setOutput target =>
      let (host, trace) := session.host.setOutput session.scope target
      ({ session with host }, trace, .nothing)
  | .setStatusPrinter actions =>
      ({ session with
          host := session.host.setStatusPrinter session.scope
            (actions.map fun actions => ⟨.native, actions⟩) },
        Trace.writing session.scope [], .nothing)
  | .setMaximum maximum => ({ session with maximum }, [], .nothing)
  | .hasSink => (session, [], .truth session.hub.sink.isSome)
  | .hasFilter => (session, [], .truth session.hub.filter.isSome)
  | .wants category =>
      let (answer, trace) := session.host.wants session.scope category
      (session, Trace.reading session.scope trace, .truth answer)
  | .sinkIs kind =>
      (session, [], .truth (session.hub.sink.bind Sink.kind? == some kind))
  | .emit category origin message =>
      let (host, trace) :=
        session.host.emit session.scope category origin message
      ({ session with host }, trace, .nothing)
  | .emitBySeverity level origin message =>
      session.bySeverity level fun severity =>
        session.host.emitBySeverity session.scope severity origin message
  | .emitAssertion origin text =>
      let (host, trace) :=
        session.host.emitAssertion session.scope origin text
      ({ session with host }, trace, .nothing)
  | .emitSystemFault level text code origin =>
      session.bySeverity level fun severity =>
        session.host.emitSystemFault session.scope severity text code origin
  | .print message =>
      let (host, trace, result) :=
        session.host.printMessage session.scope message
      ({ session with host }, trace, .ofCount result)
  | .flush =>
      let (host, trace, fault) := session.host.flushOutput session.scope
      ({ session with host }, Trace.reading session.scope trace,
        .ofFault fault)
  | .isConfigured =>
      (session, [], .truth session.hub.channel.isConfigured)
  | .poll =>
      let (host, trace, polled) := session.host.pollBuffer session.scope
      ({ session with host }, Trace.reading session.scope trace,
        match polled with
        | some signals => .signals signals
        | none => .nothing)
  | .bufferState =>
      (session, [],
        match session.hub.bufferState? with
        | some state => .buffer state
        | none => .nothing)
  | .describe => (session, [], .text session.hub.describe)
  | .describeOutput =>
      (session, [], .text (Hub.describeChannel session.hub.channel))
  | .fatal origin message =>
      let (host, trace, reply) :=
        session.host.fatalMessage session.scope origin message
      ({ session with host }, trace, reply)
  | .foreign call =>
      let (host, trace, reply) := session.host.answer session.build call
      ({ session with host }, trace, reply)

/-- Whoever watches the session sees what was printed at the end of every
step. -/
def settle (session : Session) : Session :=
  { session with
      host.ports.screen := session.host.ports.screen.flush }

/-- What is seen of a step that ended in `session`. -/
def answerOf (session : Session) (trace : Trace) (reply : Reply) : Answer :=
  let shown := trace.shown
  match reply with
  | .aborted =>
      { reply
        trace := trace.upTo session.maximum
        shown :=
          shown.take (shown.length - session.host.ports.screen.waiting.length)
        files := session.host.ports.files.map fun entry =>
          (entry.1, entry.2.device.content) }
  | _ =>
      { reply, trace := trace.upTo session.maximum, shown, files := [] }

/-- Performs steps until the end or an abort. -/
def run (session : Session) : List Step → List Answer
  | [] => []
  | step :: rest =>
      let (after, trace, reply) := session.perform step
      let answer := after.answerOf trace reply
      match reply with
      | .aborted => [answer]
      | _ => answer :: after.settle.run rest

end Session

end SignalHub
