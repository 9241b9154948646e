import SignalHub.Proofs.Carrying

/-!
# The path to an abort

A fatal error is emitted as an error, then the status printer runs, then the
output is flushed, and then the process is gone.  So whatever functions of the
host print on the way is flushed with the rest.
-/

namespace SignalHub

open Output Text

/-- The hosts after the emission, after the status printer and after the flush,
what happened in each part, and why the flush failed if it did. -/
structure FatalPath where
  emitted : Host
  emission : Trace
  reported : Host
  status : Trace
  flushed : Host
  flushing : Trace
  fault : Option Fault

/-- The reader's lock, which is never given back. -/
def Trace.entering (scope : Scope) : Trace :=
  match scope with
  | .shared => [.lock .share]
  | .own => []

/-- The record of a flush that failed before an abort. -/
def Trace.failing (fault : Option Fault) : Trace :=
  match fault with
  | some cause =>
      [.record
        ⟨.debug, "vm_diagnostics::diagnostics",
          "Failed to flush the vm output stream: " ++ cause.text, none⟩]
  | none => []

namespace Host

def fatalPath (host : Host) (scope : Scope) (origin : Origin)
    (text : String) : FatalPath :=
  let emitted :=
    host.emitReading scope "ERROR" origin (Message.text text)
  let reported := emitted.1.printStatus scope
  let flushed := reported.1.flushOutput scope
  ⟨emitted.1, emitted.2, reported.1, reported.2, flushed.1, flushed.2.1,
    flushed.2.2⟩

theorem fatal_eq_fatalPath
    (host : Host) (scope : Scope) (origin : Origin) (text : String) :
    host.fatal scope origin text =
      ((host.fatalPath scope origin text).flushed,
        Trace.entering scope ++ (host.fatalPath scope origin text).emission ++
            (host.fatalPath scope origin text).status ++
          (host.fatalPath scope origin text).flushing ++
        Trace.failing (host.fatalPath scope origin text).fault) := rfl

end Host

namespace FatalPath

/-! ## The last flush -/

/-- The one flush of a path, by the target that is the current one then. -/
structure Flushes (path : FatalPath) (scope : Scope) : Prop where
  /-- A stream is written out and, if that succeeded, its device flushed; it is
  neither closed nor replaced. -/
  stream : ∀ stream,
    (path.reported.hub scope).channel.stream? = some stream →
      ∃ last early,
        (path.flushed.hub scope).channel.stream? = some last ∧
          last.name = stream.name ∧ last.capacity = stream.capacity ∧
          early.all Transfer.writes ∧
          accepted early ++ last.held = stream.held ∧
          last.device.content = stream.device.content ++ accepted early ∧
          path.flushing.transfers =
            early ++ (if last.held = [] then [.flushed stream.name] else []) ∧
          (path.fault = none ↔
            last.held = [] ∧ stream.device.flush.2 = none) ∧
          (stream.device.refusal.kind ≠ .interrupted →
            (∀ transfer ∈ path.flushing.transfers, transfer.Progresses) →
              last.held = [])
  /-- Without a target this is standard output. -/
  screen :
    (path.reported.hub scope).channel.current = .screen →
      (path.flushed.hub scope).channel = (path.reported.hub scope).channel ∧
        path.flushed.ports.screen.waiting = [] ∧
        path.flushing.transfers = [] ∧ path.fault = none
  file : ∀ name,
    (path.reported.hub scope).channel.current = .file name →
      (path.flushed.hub scope).channel = (path.reported.hub scope).channel ∧
        (path.flushed.ports.file name, path.fault) =
          (path.reported.ports.file name).flush ∧
        path.flushing.transfers = []

theorem flushes_of_flushOutput
    {path : FatalPath} {scope : Scope}
    (flush :
      path.reported.flushOutput scope =
        (path.flushed, path.flushing, path.fault)) :
    path.Flushes scope := by
  have channel :
      (path.flushed.hub scope).channel =
        ((path.reported.hub scope).channel.flush path.reported.ports).1 := by
    have host : path.flushed = (path.reported.flushOutput scope).1 :=
      (congrArg Prod.fst flush).symm
    rw [host]
    simp [Host.flushOutput, Host.setChannel]
  have ports :
      path.flushed.ports =
        ((path.reported.hub scope).channel.flush path.reported.ports).2.1 :=
    (congrArg (fun result => result.1.ports) flush).symm
  have traced :
      path.flushing =
        Trace.holding (.channel scope)
          ((path.reported.hub scope).channel.flush
            path.reported.ports).2.2.1 :=
    (congrArg (fun result => result.2.1) flush).symm
  have fault :
      path.fault =
        ((path.reported.hub scope).channel.flush
          path.reported.ports).2.2.2 :=
    (congrArg (fun result => result.2.2) flush).symm
  constructor
  · intro stream streaming
    cases written : stream.writeOut with
    | mk emptied result =>
        obtain ⟨early, cause⟩ := result
        obtain ⟨adds, split, outcome⟩ := Stream.writeOut_adds written
        let last := emptied.flushedUnless cause
        have held : last.held = emptied.held :=
          Stream.held_flushedUnless emptied cause
        rw [← held] at split outcome
        have flushed :=
          Channel.flush_of_stream streaming
            (Stream.flush_of_writeOut written) path.reported.ports
        have writes : stream.writeOut.2.1.all Transfer.writes :=
          pour_writes _ _ _ _
        rw [written] at writes
        have transfers :
            path.flushing.transfers =
              early ++
                (if last.held = [] then [.flushed stream.name] else []) := by
          rw [traced, flushed]
          simp only [Trace.transfers_holding, Trace.transfers_map, outcome]
        refine
          ⟨last, early, ?_, ?_, ?_, writes, split, ?_, transfers, ?_, ?_⟩
        · rw [channel, flushed]
          rfl
        · exact (Stream.name_flushedUnless emptied cause).trans adds.name
        · exact
            (Stream.capacity_flushedUnless emptied cause).trans adds.capacity
        · exact
            (Stream.content_flushedUnless emptied cause).trans adds.device
        · rw [fault, flushed, ← outcome]
          exact Option.or_eq_none_iff
        · intro finite progress
          rw [transfers] at progress
          have early : ∀ transfer ∈ early, transfer.Progresses := by
            intro transfer member
            exact progress transfer (List.mem_append_left _ member)
          rw [held]
          exact (Stream.writeOut_of_progress finite written early).2
  · intro screen
    have flushed :
        (path.reported.hub scope).channel.flush path.reported.ports =
          ((path.reported.hub scope).channel,
            { path.reported.ports with
                screen := path.reported.ports.screen.flush },
            [], none) := by
      rw [Channel.flush, screen]
    rw [channel, ports, traced, fault, flushed]
    exact ⟨rfl, rfl, rfl, rfl⟩
  · intro name file
    have flushed :
        (path.reported.hub scope).channel.flush path.reported.ports =
          ((path.reported.hub scope).channel,
            path.reported.ports.setFile name
              (path.reported.ports.file name).flush.1,
            [], (path.reported.ports.file name).flush.2) := by
      rw [Channel.flush, file]
    rw [channel, ports, traced, fault, flushed, Ports.file_setFile]
    exact ⟨rfl, rfl, rfl⟩

/-! ## From the message to the flush -/

/-- What a path does, from a host on: it emits the message as an error, as any
emission is made; it calls the status printer once, if one is registered,
whatever became of the emission; and it flushes the output once, when nothing
else is going to be printed. -/
structure From
    (path : FatalPath) (host : Host) (scope : Scope) (origin : Origin)
    (text : String) : Prop where
  emission :
    host.emit scope "ERROR" origin (Message.text text) =
      (path.emitted, Trace.reading scope path.emission)
  unreported : path.emission.statuses = []
  silent : (host.hub scope).statusPrinter = none →
    path.reported = path.emitted ∧ path.status = []
  status : ∀ printer, (host.hub scope).statusPrinter = some printer →
    ∃ acts,
      path.emitted.performAll printer.actions = (path.reported, acts) ∧
        path.status = .status printer.party :: acts ∧ acts.statuses = []
  /-- Nothing is flushed or closed before the flush. -/
  unflushed : (path.emission ++ path.status).transfers.all Transfer.writes
  flush :
    path.reported.flushOutput scope =
      (path.flushed, path.flushing, path.fault)
  flushes : path.Flushes scope
  /-- The target that is flushed is the one that was current at first, with all
  that was printed on it from inside. -/
  carries :
    Host.Carries scope (scope = .shared) host path.reported
      (Trace.printsOn scope (path.emission ++ path.status))

end FatalPath

namespace Host

section Status

variable {scope : Scope} {alone : Prop}

theorem printStatus_of_none
    {host : Host} (silent : (host.hub scope).statusPrinter = none) :
    host.printStatus scope = (host, []) := by
  rw [printStatus, silent]

theorem printStatus_of_some
    {host : Host} {printer : StatusPrinter}
    (registered : (host.hub scope).statusPrinter = some printer) :
    host.printStatus scope =
      ((host.performAll printer.actions).1,
        .status printer.party ::
          (host.performAll printer.actions).2) := by
  rw [printStatus, registered]

/-- Apart from its own call, a status printer is like any function of the
host. -/
theorem printStatus_acts
    (only : alone → scope = .shared) (host : Host) :
    Carries scope alone host (host.printStatus scope).1
        (Trace.printsOn scope (host.printStatus scope).2) ∧
      (host.printStatus scope).2.transfers.all Transfer.writes := by
  cases registered : (host.hub scope).statusPrinter with
  | none =>
      rw [printStatus_of_none registered]
      refine ⟨?_, rfl⟩
      rw [Trace.printsOn_of_silent rfl]
      exact Carries.of_same rfl fun _ => rfl
  | some printer =>
      have respected : Respected scope (Acted scope alone) :=
        respected_acted scope only
      have acted := respected.performAll host printer.actions
      have prints :
          Trace.printsOn scope
              (.status printer.party ::
                (host.performAll printer.actions).2) =
            Trace.printsOn scope (host.performAll printer.actions).2 := by
        cases scope <;> rfl
      rw [printStatus_of_some registered, prints]
      exact ⟨acted.carries, acted.writes⟩

end Status

/-- A flush shows nothing new; it lets go what was shown before. -/
theorem shown_flushOutput (host : Host) (scope : Scope) :
    Trace.shown (host.flushOutput scope).2.1 = [] := by
  have shows :
      Trace.shown
          ((host.hub scope).channel.flush host.ports).2.2.1 = [] := by
    rw [Channel.flush]
    cases (host.hub scope).channel.current with
    | stream stream =>
        rw [Trace.shown, List.flatMap_eq_nil_iff]
        intro event member
        obtain ⟨transfer, _, rfl⟩ := List.mem_map.mp member
        rfl
    | _ => rfl
  rw [flushOutput, Trace.shown_holding]
  exact shows

theorem fatalPath_from
    (host : Host) (scope : Scope) (origin : Origin) (text : String) :
    (host.fatalPath scope origin text).From host scope origin text := by
  let path := host.fatalPath scope origin text
  have respected : Respected scope (Acted scope (scope = .shared)) :=
    respected_acted scope id
  have emitted : Acted scope (scope = .shared) host path.emitted path.emission :=
    respected.emitReading (Or.inl rfl) host "ERROR" origin (Message.text text)
  have reported : path.emitted.printStatus scope = (path.reported, path.status) :=
    rfl
  have flush :
      path.reported.flushOutput scope =
        (path.flushed, path.flushing, path.fault) :=
    rfl
  obtain ⟨carries, writes⟩ :
      Carries scope (scope = .shared) path.emitted path.reported
          (Trace.printsOn scope path.status) ∧
        path.status.transfers.all Transfer.writes :=
    printStatus_acts id path.emitted
  constructor
  · rfl
  · exact emitted.unreported
  -- The status printer that was registered at first still is, whatever the
  -- emission did.
  · intro silent
    rw [← emitted.statusPrinter] at silent
    rw [printStatus_of_none silent] at reported
    obtain ⟨host, trace⟩ := Prod.mk.inj reported
    exact ⟨host.symm, trace.symm⟩
  · intro printer registered
    have acted :=
      respected.performAll path.emitted printer.actions
    rw [← emitted.statusPrinter] at registered
    rw [printStatus_of_some registered] at reported
    obtain ⟨host, trace⟩ := Prod.mk.inj reported
    refine ⟨(path.emitted.performAll printer.actions).2, ?_, trace.symm, ?_⟩
    · exact Prod.ext host rfl
    · exact acted.unreported
  · rw [Trace.transfers_append, List.all_append, Bool.and_eq_true]
    exact ⟨emitted.writes, writes⟩
  · exact flush
  · exact FatalPath.flushes_of_flushOutput flush
  · rw [Trace.printsOn_append]
    exact emitted.carries.trans carries

end Host

end SignalHub
