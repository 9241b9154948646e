import SignalHub.CommandLine.Run
import SignalHub.Proofs.Category
import SignalHub.Proofs.Fatal
import SignalHub.Proofs.Severity

/-!
# What the options let through

A run that emits a message shows it on standard output if its category is
enabled, and nothing otherwise.  Setting up leaves a hub that is ready for this;
an emission shows one record or none and keeps the hub ready; and the flush at
the end shows nothing new.
-/

namespace SignalHub

open Output Text

namespace CommandLine

/-! ## What is promised -/

section Promises

variable (surroundings : Surroundings) (options : Options)
  (category message : String) (output : Bytes)

/-- Categories are enabled all together, one by one as they stand, or by the
list in the variable. -/
def Enabled : Prop :=
  options.all = true ∨ category ∈ options.enable ∨
    ∃ list,
      surroundings.categories = some (bytes list) ∧
        CategorySet.Listed list category

/-- The line that shows a text under a category. -/
def lineOf (text : String) : String :=
  Style.faint.apply surroundings.paint surroundings.clock ++ " " ++
    Style.faintBold.apply surroundings.paint category ++ " " ++
    Style.faint.apply surroundings.paint
      (surroundings.origin.file ++ ":" ++
        toString surroundings.origin.line) ++ " - " ++
    text ++ "\n"

/-- The output is one line, which shows as much of a message as fits, without
the blanks at the ends of that. -/
def Records : Prop :=
  ∃ cut text : String,
    LongestFitting 249 message cut ∧ Trims cut.toList text.toList ∧
      output = bytes (lineOf surroundings category text)

/-- The output is the record of a message, or nothing. -/
structure Gated : Prop where
  enabled :
    Enabled surroundings options category →
      Records surroundings category message output
  disabled : ¬ Enabled surroundings options category → output = []

end Promises

/-! ## What is seen of a trace -/

/-- What a trace adds to standard output and to standard error. -/
structure Puts
    (surroundings : Surroundings) (destination : Option Destination)
    (trace : Trace) (output : Bytes) (errors : String) : Prop where
  output : trace.flatMap (Outcome.shownBy destination) = output
  errors :
    String.join (trace.map (Outcome.notedBy surroundings destination)) = errors

section Puts

variable {surroundings : Surroundings} {destination : Option Destination}
  {trace rest : Trace} {output more : Bytes} {errors others : String}

theorem Puts.append
    (first : Puts surroundings destination trace output errors)
    (second : Puts surroundings destination rest more others) :
    Puts surroundings destination (trace ++ rest) (output ++ more)
      (errors ++ others) := by
  constructor
  · rw [List.flatMap_append, first.output, second.output]
  · rw [List.map_append, String.join_append, first.errors, second.errors]

/-- An event that is seen nowhere. -/
def isUnseen : Event → Bool
  | .shown _ | .record _ | .status _ | .transfer (.wrote _ _) => false
  | _ => true

theorem Puts.of_unseen {event : Event} (unseen : isUnseen event) :
    Puts surroundings destination [event] [] "" := by
  have filed : Outcome.filed event = [] := by
    cases event with
    | transfer transfer =>
        cases transfer with
        | wrote _ _ => cases unseen
        | _ => rfl
    | _ => rfl
  constructor
  · have hidden : Outcome.shownBy destination event = [] := by
      cases event with
      | shown _ => cases unseen
      | _ => simp only [Outcome.shownBy, filed, ite_self]
    rw [List.flatMap_singleton, hidden]
  · have silent : Outcome.notedBy surroundings destination event = "" := by
      have nothing : decode [] = "" := rfl
      cases event with
      | record _ | status _ => cases unseen
      | _ => simp only [Outcome.notedBy, filed, nothing, ite_self]
    simp [silent]

theorem Puts.nothing (unseen : trace.all isUnseen) :
    Puts surroundings destination trace [] "" := by
  induction trace with
  | nil => exact ⟨rfl, rfl⟩
  | cons event rest inductionHypothesis =>
      rw [List.all_cons, Bool.and_eq_true] at unseen
      exact (Puts.of_unseen unseen.1).append (inductionHypothesis unseen.2)

theorem Puts.shown (data : Bytes) :
    Puts surroundings destination [.shown data] data "" := by
  constructor
  · exact List.append_nil data
  · have silent :
        Outcome.notedBy surroundings destination (.shown data) = "" := by
      have nothing : decode [] = "" := rfl
      simp only [Outcome.notedBy, Outcome.filed, nothing, ite_self]
    simp [silent]

theorem Puts.locked
    (puts : Puts surroundings destination trace output errors)
    (first last : LockStep) :
    Puts surroundings destination (.lock first :: trace ++ [.lock last])
      output errors := by
  have around : ∀ step, Puts surroundings destination [.lock step] [] "" :=
    fun step => Puts.nothing rfl
  have whole := ((around first).append puts).append (around last)
  simpa using whole

end Puts

/-! ## Setting up -/

section Ready

variable {surroundings : Surroundings} {options : Options}

theorem accepts_filterFor (acceptance : Acceptance) (category : String) :
    (filterFor surroundings options).1.accepts acceptance category = true ↔
      Enabled surroundings options category := by
  rw [filterFor]
  split
  · next all => exact iff_of_true rfl (Or.inl all)
  · next restricted =>
      have members :
          (Filter.members (enabledSet surroundings options)).accepts acceptance
              category =
            (enabledSet surroundings options).accepts category := rfl
      rw [members, enabledSet, CategorySet.accepts_extend,
        CategorySet.accepts_ofVariable, Enabled, or_iff_right restricted,
        or_comm]

/-- A host whose hub does what the options ask for, with nothing printed that
is still waiting. -/
structure Ready
    (surroundings : Surroundings) (options : Options) (host : Host) :
    Prop where
  sink : (host.hub .shared).sink = some .console
  filter : (host.hub .shared).filter = some (filterFor surroundings options).1
  statusPrinter : (host.hub .shared).statusPrinter = some ⟨.native, []⟩
  channel :
    (host.hub .shared).channel = Channel.unset ∨
      ∃ device, (host.hub .shared).channel = ⟨some (targetOn device)⟩
  screen : host.ports.screen = ⟨[]⟩
  script : host.script = []
  paint : host.paint = surroundings.paint
  clock : host.clock = surroundings.clock

/-- The hub before its output and its status printer are set up. -/
def registered (surroundings : Surroundings) (options : Options) : Host :=
  ((Host.fresh surroundings.paint surroundings.clock).setSink .shared
    (some (sinkFor options))).setFilter .shared
      (some (filterFor surroundings options).1)

theorem setUp_eq (surroundings : Surroundings) (options : Options) :
    setUp surroundings options =
      let prepared :=
        openOutput surroundings options (registered surroundings options)
      ⟨match prepared.opened with
        | .ok _ =>
            prepared.host.setStatusPrinter .shared (some ⟨.native, []⟩)
        | .error _ => prepared.host,
        Trace.writing .shared
          ((filterFor surroundings options).2 ++ prepared.trace),
        prepared.opened⟩ := rfl

theorem openOutput_registered
    (usable : ∀ path, options.output = some path →
      ∃ file, surroundings.openFile path = .ok file) :
    ∃ destination channel trace,
      openOutput surroundings options (registered surroundings options) =
          ⟨(registered surroundings options).setChannel .shared channel,
            trace, .ok destination⟩ ∧
        (channel = Channel.unset ∨
          ∃ device, channel = ⟨some (targetOn device)⟩) := by
  rw [openOutput]
  cases asked : options.output with
  | none => exact ⟨none, Channel.unset, [], rfl, Or.inl rfl⟩
  | some path =>
      obtain ⟨file, opened⟩ := usable path asked
      simp only [opened]
      exact ⟨_, _, _, rfl, Or.inr ⟨file.device, rfl⟩⟩

/-- Nothing was printed yet that could be flushed for a new output. -/
theorem openOutput_locks (surroundings : Surroundings) (options : Options) :
    (openOutput surroundings options
        (registered surroundings options)).trace = [] ∨
      (openOutput surroundings options
          (registered surroundings options)).trace =
        Trace.holding (.channel .shared) [] := by
  rw [openOutput]
  cases options.output with
  | none => exact Or.inl rfl
  | some path =>
      cases opened : surroundings.openFile path with
      | error fault => simp only [opened, true_or]
      | ok file =>
          simp only [opened]
          exact Or.inr rfl

/-- What the record of the enabled categories puts on standard error, if the
journal shows it. -/
def enabledNote (surroundings : Surroundings) (options : Options) : String :=
  String.join
    ((filterFor surroundings options).2.map
      (Outcome.notedBy surroundings none))

/-- Setting up shows nothing, and on standard error one record at most. -/
theorem setUp_puts
    (surroundings : Surroundings) (options : Options)
    (destination : Option Destination) :
    Puts surroundings destination (setUp surroundings options).trace []
      (enabledNote surroundings options) := by
  have noted :
      Puts surroundings destination (filterFor surroundings options).2 []
        (enabledNote surroundings options) := by
    rw [enabledNote, filterFor]
    split
    · exact ⟨rfl, rfl⟩
    · exact ⟨by simp [Outcome.shownBy, Outcome.filed], rfl⟩
  have unseen :
      (openOutput surroundings options
          (registered surroundings options)).trace.all isUnseen := by
    rcases openOutput_locks surroundings options with none | locks
    · rw [none]
      rfl
    · rw [locks]
      rfl
  have whole := noted.append (Puts.nothing unseen)
  rw [String.append_empty] at whole
  exact whole.locked .claim .unclaim

/-- The options are set up, with these errors, and prints go there. -/
structure SetUp
    (surroundings : Surroundings) (options : Options)
    (destination : Option Destination) (errors : String) : Prop where
  opened : (setUp surroundings options).opened = .ok destination
  ready : Ready surroundings options (setUp surroundings options).host
  puts :
    Puts surroundings destination (setUp surroundings options).trace [] errors

theorem exists_setUp
    (direct : options.forward = false)
    (usable : ∀ path, options.output = some path →
      ∃ file, surroundings.openFile path = .ok file) :
    ∃ destination errors,
      SetUp surroundings options destination errors := by
  obtain ⟨destination, channel, trace, opened, fits⟩ :=
    openOutput_registered usable
  have ends := setUp_eq surroundings options
  rw [opened] at ends
  refine ⟨destination, enabledNote surroundings options, ?_, ?_,
    setUp_puts surroundings options destination⟩
  · rw [ends]
  · rw [ends]
    constructor
    · show some (sinkFor options) = some .console
      rw [sinkFor, direct]
      rfl
    · rfl
    · rfl
    · exact fits
    all_goals rfl

end Ready

/-! ## Commands -/

/-- Before anything was printed the stream in front of a file holds nothing
back. -/
theorem flush_targetOn (device : Device) :
    (Stream.buffered outputName device.unfailing outputCapacity).flush =
      (Stream.buffered outputName device.unfailing outputCapacity,
        [.flushed outputName], none) :=
  Stream.flush_of_idle rfl

namespace Ready

variable {surroundings : Surroundings} {options : Options} {host : Host}

theorem receive
    (ready : Ready surroundings options host) (category message : String) :
    host.receive .shared .console ⟨category, surroundings.origin, message⟩ =
      (host,
        [.shown (bytes (lineOf surroundings category (trim message)))]) := by
  have line :
      consoleLine host.paint host.clock
          ⟨category, surroundings.origin, message⟩ =
        lineOf surroundings category (trim message) := by
    rw [ready.paint, ready.clock]
    rfl
  have same : { host with ports.screen := ⟨[]⟩ } = host := by
    rw [← ready.screen]
  have printed :
      host.ports.screen.print
          (bytes (lineOf surroundings category (trim message))) = ⟨[]⟩ := by
    rw [lineOf, Screen.print_line]
  simp only [Host.receive, line, printed, same]

/-- An emission shows a record or nothing, and leaves the host as it was. -/
theorem emitReading
    (ready : Ready surroundings options host)
    (destination : Option Destination) (category message : String) :
    ∃ trace output,
      host.emitReading .shared category surroundings.origin
          (Message.text message) = (host, trace) ∧
        Gated surroundings options category message output ∧
        Puts surroundings destination trace output "" := by
  let filter := (filterFor surroundings options).1
  let signal := (Message.text message).signal category surroundings.origin
  let line := bytes (lineOf surroundings category (trim signal.message))
  have gate := Host.gate_of_registered ready.sink ready.filter category
  have asking :
      Puts surroundings destination
        (.question filter category :: filter.passedOn category) [] "" := by
    refine Puts.nothing ?_
    cases filter <;> rfl
  by_cases enabled : Enabled surroundings options category
  · rw [if_pos ((accepts_filterFor host.acceptance category).mpr enabled)]
      at gate
    obtain ⟨more, traced, alone⟩ :=
      Host.emitReading_of_open gate surroundings.origin (Message.text message)
    -- There is no script to act by, so nothing follows the delivery.
    obtain ⟨rfl, left⟩ := alone ready.script
    have received :
        host.receive .shared .console signal = (host, [.shown line]) :=
      ready.receive category signal.message
    rw [received, List.append_nil] at traced
    rw [received] at left
    dsimp only at left
    have longest : LongestFitting 249 message signal.message := by
      have offered :=
        (Message.text message).longestFitting_signal category
          surroundings.origin
      rw [Message.text, Formatter.offeredBounded_text] at offered
      exact offered
    have records : Records surroundings category message line := by
      refine ⟨signal.message, trim signal.message, longest, ?_, rfl⟩
      rw [trim, String.toList_ofList]
      exact trims_trimChars signal.message.toList
    have gated : Gated surroundings options category message line :=
      ⟨fun _ => records, fun disabled => absurd enabled disabled⟩
    have delivering :
        Puts surroundings destination
          [.formatted ((Message.text message).program.runBounded
              messageSize).taken false, .delivery .console signal] [] "" :=
      Puts.nothing rfl
    have whole := (asking.append delivering).append (Puts.shown line)
    simp only [List.nil_append, String.append_empty] at whole
    exact ⟨_, line, Prod.ext_iff.mpr ⟨left, traced⟩, gated, whole⟩
  · have rejected :
        ¬ (filterFor surroundings options).1.accepts host.acceptance category =
          true :=
      fun accepted => enabled ((accepts_filterFor _ category).mp accepted)
    rw [if_neg rejected] at gate
    have gated : Gated surroundings options category message [] :=
      ⟨fun here => absurd here enabled, fun _ => rfl⟩
    exact ⟨_, [], Host.emitReading_of_closed gate _ _, gated, asking⟩

theorem flushOutput
    (ready : Ready surroundings options host) :
    ∃ after trace,
      host.flushOutput .shared = (after, trace, none) ∧
        after.ports.screen.waiting = [] ∧ trace.all isUnseen := by
  rw [Host.flushOutput]
  rcases ready.channel with unset | ⟨device, streams⟩
  -- Without a file it is standard output that is flushed.
  · rw [unset]
    exact ⟨_, _, rfl, rfl, rfl⟩
  · rw [streams]
    have flushed :
        Channel.flush ⟨some (targetOn device)⟩ host.ports =
          (⟨some (targetOn device)⟩, host.ports,
            [.transfer (.flushed outputName)], none) :=
      Channel.flush_of_stream rfl (flush_targetOn device) host.ports
    rw [flushed]
    exact ⟨_, _, rfl, congrArg Screen.waiting ready.screen, rfl⟩

end Ready

/-! ## Runs -/

/-- How a run ends, and what is seen of it. -/
structure Seen
    (surroundings : Surroundings) (outcome : Outcome) (ending : Ending)
    (output : Bytes) (errors : String) : Prop where
  ends : outcome.ending = ending
  shown : outcome.shown = output
  errors :
    outcome.errors surroundings =
      written surroundings.journal.2 ++ errors ++
        written (ending.lines surroundings.emphasises)

theorem Seen.of_puts
    {surroundings : Surroundings} {outcome : Outcome} {ending : Ending}
    {output : Bytes} {errors : String}
    (puts :
      Puts surroundings outcome.destination outcome.trace output errors)
    (ends : outcome.ending = ending)
    (flushed :
      ending = .aborted → outcome.host.ports.screen.waiting = []) :
    Seen surroundings outcome ending output errors := by
  refine ⟨ends, ?_, ?_⟩
  · rw [Outcome.shown, puts.output, ends]
    cases ending with
    | aborted =>
        simp only [flushed rfl, List.length_nil, Nat.sub_zero,
          List.take_length]
    | _ => rfl
  · rw [Outcome.errors, puts.errors, ends]

section Runs

variable {surroundings : Surroundings} {options : Options}
  {destination : Option Destination} {errors : String}

theorem run_of_success
    (opened : (setUp surroundings options).opened = .ok destination)
    {command : Command} {done last : Host} {during after : Trace}
    {ending : Ending}
    (performed :
      perform surroundings (setUp surroundings options).host command =
        (done, during, .success))
    (finished : finish done = (last, after, ending)) :
    Request.run surroundings ⟨options, command⟩ =
      ⟨last, (setUp surroundings options).trace ++ during ++ after,
        destination, ending⟩ := by
  rw [Request.run]
  simp only [opened, performed, finished]

theorem run_of_end
    (opened : (setUp surroundings options).opened = .ok destination)
    {command : Command} {done : Host} {during : Trace} {ending : Ending}
    (performed :
      perform surroundings (setUp surroundings options).host command =
        (done, during, ending))
    (ends : ending ≠ .success) :
    Request.run surroundings ⟨options, command⟩ =
      ⟨done, (setUp surroundings options).trace ++ during, destination,
        ending⟩ := by
  rw [Request.run]
  simp only [opened, performed]

theorem SetUp.log
    (sets : SetUp surroundings options destination errors)
    (category message : String) :
    ∃ output,
      Gated surroundings options category message output ∧
        Seen surroundings
          (Request.run surroundings ⟨options, .log category message⟩)
          .success output errors := by
  obtain ⟨trace, output, emitted, gated, puts⟩ :=
    sets.ready.emitReading destination category message
  obtain ⟨last, flushing, flushed, _, unseen⟩ := sets.ready.flushOutput
  have performed :
      perform surroundings (setUp surroundings options).host
          (.log category message) =
        ((setUp surroundings options).host, Trace.reading .shared trace,
          .success) := by
    rw [perform, Host.emit, emitted]
  have finished :
      finish (setUp surroundings options).host =
        (last, .lock .read :: flushing ++ [.lock .unshare], .success) := by
    rw [finish, flushed]
  have emitting := sets.puts.append (puts.locked .share .unshare)
  have finishing : Puts surroundings destination flushing [] "" :=
    Puts.nothing unseen
  have whole := emitting.append (finishing.locked .read .unshare)
  simp only [List.nil_append, List.append_nil, String.append_empty] at whole
  rw [run_of_success sets.opened performed finished]
  exact ⟨output, gated, Seen.of_puts whole rfl (by simp)⟩

theorem run_severity
    (surroundings : Surroundings) (options : Options) (severity : Severity)
    (message : String) :
    Request.run surroundings ⟨options, .severity severity.index message⟩ =
      Request.run surroundings ⟨options, .log severity.name message⟩ := by
  have same (host : Host) :
      perform surroundings host (.severity severity.index message) =
        perform surroundings host (.log severity.name message) := by
    simp only [perform, severity.ofIndex_index]
    rfl
  simp only [Request.run, same]

theorem SetUp.severity_of_outside
    (sets : SetUp surroundings options destination errors)
    {level : Int} (outside : ¬ (0 ≤ level ∧ level ≤ 5)) (message : String) :
    Seen surroundings
      (Request.run surroundings ⟨options, .severity level message⟩)
      (.failed (.severity ⟨level⟩)) [] errors := by
  have performed (host : Host) :
      perform surroundings host (.severity level message) =
        (host, [], .failed (.severity ⟨level⟩)) := by
    rw [perform, Severity.ofIndex_of_outside outside]
  rw [run_of_end sets.opened (performed _) (by simp), List.append_nil]
  exact Seen.of_puts sets.puts rfl (by simp)

/-- The error is emitted, then the status is printed, and nothing that was
shown is left waiting. -/
theorem SetUp.fatal
    (sets : SetUp surroundings options destination errors)
    (message : String) :
    ∃ output,
      Gated surroundings options "ERROR" message output ∧
        Seen surroundings
          (Request.run surroundings ⟨options, .fatal message⟩)
          .aborted output
          (errors ++ written (statusLines surroundings.build)) := by
  obtain ⟨trace, output, emitted, gated, puts⟩ :=
    sets.ready.emitReading destination "ERROR" message
  obtain ⟨last, flushing, flushed, settled, unseen⟩ := sets.ready.flushOutput
  have reported :
      (setUp surroundings options).host.printStatus .shared =
        ((setUp surroundings options).host, [.status .native]) :=
    Host.printStatus_of_some sets.ready.statusPrinter
  have performed :
      perform surroundings (setUp surroundings options).host
          (.fatal message) =
        (last,
          [.lock .share] ++ trace ++ [.status .native] ++ flushing ++ [],
          .aborted) := by
    rw [perform, Host.fatal]
    simp only [Severity.name, emitted, reported, flushed]
  have entering : Puts surroundings destination [.lock .share] [] "" :=
    Puts.nothing rfl
  have status :
      Puts surroundings destination [.status .native] []
        (written (statusLines surroundings.build)) :=
    ⟨by simp [Outcome.shownBy, Outcome.filed], by simp [Outcome.notedBy]⟩
  have finishing : Puts surroundings destination (flushing ++ []) [] "" := by
    rw [List.append_nil]
    exact Puts.nothing unseen
  have whole :=
    sets.puts.append
      (((entering.append puts).append status).append finishing)
  simp only [List.nil_append, List.append_nil, String.append_empty,
    String.empty_append] at whole
  rw [run_of_end sets.opened performed (by simp)]
  simp only [List.append_nil]
  exact ⟨output, gated, Seen.of_puts whole rfl fun _ => settled⟩

end Runs

/-- What commands that emit do under options: a message of an enabled category
is shown, any other is not, and either is a success. -/
structure Gates (surroundings : Surroundings) (options : Options) : Prop where
  log : ∀ category message,
    (Request.run surroundings ⟨options, .log category message⟩).code? =
        some 0 ∧
      Gated surroundings options category message
        (Request.run surroundings ⟨options, .log category message⟩).shown
  /-- Wherever the signal comes from, a level stands for its name. -/
  severity : ∀ (level : Nat) (name message : String),
    Severity.names[level]? = some name →
      Request.run surroundings ⟨options, .severity level message⟩ =
        Request.run surroundings ⟨options, .log name message⟩
  outside : ∀ (level : Int) (message : String),
    ¬ (0 ≤ level ∧ level ≤ 5) →
      (Request.run surroundings ⟨options, .severity level message⟩).code? =
          some 1 ∧
        (Request.run surroundings ⟨options, .severity level message⟩).shown =
          []
  /-- An error, the status after it, and no exit code. -/
  fatal : ∀ message,
    (Request.run surroundings ⟨options, .fatal message⟩).ending = .aborted ∧
      Gated surroundings options "ERROR" message
        (Request.run surroundings ⟨options, .fatal message⟩).shown ∧
      (Request.run surroundings ⟨options, .fatal message⟩).errors
          surroundings =
        (Request.run surroundings ⟨options, .log "ERROR" message⟩).errors
            surroundings ++
          written (statusLines surroundings.build)

/-- Under any options that do not forward signals, with an output file that can
be opened if there is to be one. -/
theorem commands_pass_the_gate
    {surroundings : Surroundings} {options : Options}
    (direct : options.forward = false)
    (usable : ∀ path, options.output = some path →
      ∃ file, surroundings.openFile path = .ok file) :
    Gates surroundings options := by
  obtain ⟨destination, errors, sets⟩ := exists_setUp direct usable
  constructor
  · intro category message
    obtain ⟨output, gated, seen⟩ := sets.log category message
    rw [Outcome.code?, seen.ends, seen.shown]
    exact ⟨rfl, gated⟩
  · intro level name message named
    obtain ⟨severity, rfl, rfl⟩ := Severity.exists_of_getElem?_names named
    exact run_severity surroundings options severity message
  · intro level message outside
    have seen := sets.severity_of_outside outside message
    rw [Outcome.code?, seen.ends, seen.shown]
    exact ⟨rfl, rfl⟩
  · intro message
    obtain ⟨output, gated, seen⟩ := sets.fatal message
    obtain ⟨_, _, logged⟩ := sets.log "ERROR" message
    refine ⟨seen.ends, ?_, ?_⟩
    · rw [seen.shown]
      exact gated
    · have lines : ∀ ending, ending = .aborted ∨ ending = .success →
          written (Ending.lines surroundings.emphasises ending) = "" := by
        rintro _ (rfl | rfl) <;> rfl
      rw [seen.errors, logged.errors, lines _ (Or.inl rfl),
        lines _ (Or.inr rfl)]
      simp only [String.append_empty, String.append_assoc]

/-- Surroundings that list two categories, and in which every file can be
opened. -/
def listing : Surroundings :=
  { categories := some (bytes "INFO,, Beacon ")
    directives := none
    styles := none
    plain := none
    journalStyle := none
    directory := []
    clock := "10:00"
    stamp := "10:00"
    origin := ⟨"main", "main", 7⟩
    build := Build.current "" ""
    openFile := fun _ => .ok ⟨.elsewhere, Device.boundless⟩ }

theorem commands_pass_the_gate_listed :
    (Request.run listing
        ⟨⟨["DEBUG"], false, false, some []⟩,
          .log "Beacon" " lit "⟩).shown =
      bytes "10:00 Beacon main:7 - lit\n" := by
  let options : Options := ⟨["DEBUG"], false, false, some []⟩
  have gates : Gates listing options :=
    commands_pass_the_gate rfl fun path _ =>
      ⟨⟨.elsewhere, Device.boundless⟩, rfl⟩
  have listed : CategorySet.Listed "INFO,, Beacon " "Beacon" :=
    CategorySet.accepts_parse.mp (by decide)
  have enabled : Enabled listing options "Beacon" :=
    Or.inr (Or.inr ⟨_, rfl, listed⟩)
  obtain ⟨cut, text, longest, trims, shown⟩ :=
    (gates.log "Beacon" " lit ").2.enabled enabled
  have whole : cut = " lit " := longest.eq_of_fits (by decide)
  have core : text.toList = "lit".toList := by
    rw [← trims.trimChars_eq, whole]
    decide
  rw [shown, String.toList_inj.mp core]
  decide

end CommandLine

end SignalHub
