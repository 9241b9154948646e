import SignalHub.Proofs.CommandLine.Gating
import SignalHub.Proofs.Output.Channel
import SignalHub.Proofs.Separation

/-!
# Runs and their output

How a run goes on once its options are set up.  A printed message is poured into
the opened file: at once if it goes past the buffer, and by the last flush if the
buffer kept it.  No other command writes to the file.
-/

namespace SignalHub.CommandLine

open Output Text

/-! ## After the set-up -/

/-- A run goes on from its set-up like this. -/
structure Continues
    (surroundings : Surroundings) (request : Request)
    (destination : Option Destination) (rest : Trace)
    (target : Option Target) (ending : Ending) : Prop where
  destination : (request.run surroundings).destination = destination
  trace :
    (request.run surroundings).trace =
      (setUp surroundings request.options).trace ++ rest
  target : (request.run surroundings).host.shared.channel.target = target
  ending : (request.run surroundings).ending = ending

/-- The hub is set up, and prints go to this channel. -/
structure Opens
    (surroundings : Surroundings) (options : Options)
    (destination : Option Destination) (channel : Channel) : Prop where
  opened : (setUp surroundings options).opened = .ok destination
  channel : ((setUp surroundings options).host.hub .shared).channel = channel
  statusPrinter :
    ((setUp surroundings options).host.hub .shared).statusPrinter =
      some ⟨.native, []⟩
  idle : (setUp surroundings options).host.script = []

/-- What is done while the hub is set up. -/
def isPreparation : Event → Bool
  | .record _ | .lock _ => true
  | _ => false

section SetUp

variable {surroundings : Surroundings} {options : Options}

theorem setUp_of_none (unasked : options.output = none) :
    Opens surroundings options none Channel.unset := by
  have ends := setUp_eq surroundings options
  rw [openOutput, unasked] at ends
  constructor <;> rw [ends] <;> rfl

theorem setUp_of_file
    {path : Bytes} {file : OpenedFile} (asked : options.output = some path)
    (opened : surroundings.openFile path = .ok file) :
    Opens surroundings options (some file.destination)
      ⟨some (targetOn file.device)⟩ := by
  have ends := setUp_eq surroundings options
  simp only [openOutput, asked, opened] at ends
  constructor <;> rw [ends] <;> rfl

theorem trace_setUp (surroundings : Surroundings) (options : Options) :
    (setUp surroundings options).trace =
      Trace.writing .shared
        ((filterFor surroundings options).2 ++
          (openOutput surroundings options
            (registered surroundings options)).trace) := rfl

/-- Setting up prints nothing and emits nothing. -/
theorem preparation_setUp (surroundings : Surroundings) (options : Options) :
    (setUp surroundings options).trace.all isPreparation := by
  have noted : (filterFor surroundings options).2.all isPreparation := by
    rw [filterFor]
    split <;> rfl
  rw [trace_setUp]
  apply Trace.all_writing fun _ => rfl
  rw [List.all_append, noted]
  rcases openOutput_locks surroundings options with none | locks
  · rw [none]
    rfl
  · rw [locks]
    rfl

theorem transfers_setUp (surroundings : Surroundings) (options : Options) :
    (setUp surroundings options).trace.transfers = [] := by
  apply Trace.filterMap_of_kind _ (preparation_setUp surroundings options)
  intro event prepares
  cases event <;> first | rfl | cases prepares

end SetUp

/-! ## Prints and flushes -/

/-- What is seen of a print on a stream. -/
def printTrace (transfers : List Transfer) : Trace :=
  Trace.reading .shared
    (Trace.holding (.channel .shared) (transfers.map .transfer))

/-- What is seen of the flush of a stream at the end of a run. -/
def flushTrace (transfers : List Transfer) : Trace :=
  .lock .read ::
    Trace.holding (.channel .shared) (transfers.map .transfer) ++
      [.lock .unshare]

/-- What is seen of a print that succeeds and of the flush after it. -/
def wholeTrace (count : Nat) (early late : List Transfer) : Trace :=
  printTrace early ++ [.record (printedRecord count)] ++ flushTrace late

/-- How a run ends after its last flush. -/
def flushEnding : Option Fault → Ending
  | some cause => .failed (.system cause)
  | none => .success

section Streams

variable {surroundings : Surroundings} {options : Options}
  {destination : Option Destination} {stream after last : Stream}
  {message : String} {early late : List Transfer} {fault : Option Fault}

theorem printBytes_of_stream
    {host : Host}
    (streaming : (host.hub .shared).channel = ⟨some (.stream stream)⟩)
    {data : Bytes} (printed : stream.print data = (after, early, fault)) :
    host.printBytes .shared data =
      (host.setChannel .shared ⟨some (.stream after)⟩,
        Trace.holding (.channel .shared) (early.map .transfer),
        Channel.outcome data fault) := by
  have here : Channel.stream? ⟨some (.stream stream)⟩ = some stream := rfl
  rw [Host.printBytes, streaming, Channel.print_of_stream here printed]
  rfl

theorem flushOutput_of_stream
    {host : Host}
    (streaming : (host.hub .shared).channel = ⟨some (.stream stream)⟩)
    (flushed : stream.flush = (after, late, fault)) :
    host.flushOutput .shared =
      (host.setChannel .shared ⟨some (.stream after)⟩,
        Trace.holding (.channel .shared) (late.map .transfer), fault) := by
  have here : Channel.stream? ⟨some (.stream stream)⟩ = some stream := rfl
  rw [Host.flushOutput, streaming, Channel.flush_of_stream here flushed]
  rfl

theorem finish_of_stream
    {host : Host}
    (streaming : (host.hub .shared).channel = ⟨some (.stream stream)⟩)
    (flushed : stream.flush = (after, late, fault)) :
    finish host =
      (host.setChannel .shared ⟨some (.stream after)⟩, flushTrace late,
        flushEnding fault) := by
  rw [finish, flushOutput_of_stream streaming flushed]
  cases fault <;> rfl

/-- A print that fails is the end of the run; the stream is not flushed. -/
theorem Opens.print_fails
    (opens :
      Opens surroundings options destination ⟨some (.stream stream)⟩)
    {cause : Fault}
    (printed : stream.print (bytes message) = (after, early, some cause)) :
    Continues surroundings ⟨options, .printf message⟩ destination
      (printTrace early) (some (.stream after))
      (.failed (.printing cause)) := by
  have performed :
      perform surroundings (setUp surroundings options).host
          (.printf message) =
        ((setUp surroundings options).host.setChannel .shared
            ⟨some (.stream after)⟩,
          printTrace early, .failed (.printing cause)) := by
    rw [perform, printBytes_of_stream opens.channel printed]
    rfl
  have ran := run_of_end opens.opened performed (by simp)
  constructor <;> rw [ran]
  rfl

/-- After a print that succeeds it is the flush that decides. -/
theorem Opens.print_succeeds
    (opens :
      Opens surroundings options destination ⟨some (.stream stream)⟩)
    (printed : stream.print (bytes message) = (after, early, none))
    (flushed : after.flush = (last, late, fault)) :
    Continues surroundings ⟨options, .printf message⟩ destination
      (wholeTrace (bytes message).length early late)
      (some (.stream last)) (flushEnding fault) := by
  have performed :
      perform surroundings (setUp surroundings options).host
          (.printf message) =
        ((setUp surroundings options).host.setChannel .shared
            ⟨some (.stream after)⟩,
          printTrace early ++ [.record (printedRecord (bytes message).length)],
          .success) := by
    rw [perform, printBytes_of_stream opens.channel printed]
    rfl
  have ran :=
    run_of_success opens.opened performed (finish_of_stream rfl flushed)
  constructor <;> rw [ran]
  · exact List.append_assoc _ _ _
  · rfl

end Streams

/-! ## What reaches the file -/

/-- How a print of data fails: the buffer keeps what is short until the last
flush. -/
def failureOf (data : Bytes) (fault : Fault) : Failure :=
  if data.length < outputCapacity then .system fault else .printing fault

/-- Data went to a device as far as that took it, and the run is a success
exactly if that was all of it. -/
structure Fills
    (device : Device) (data : Bytes) (rest : Trace) (target : Option Target)
    (ending : Ending) : Prop where
  unshown : ∀ shown, .shown shown ∉ rest
  beginning : accepted rest.transfers <+: data
  content :
    ∃ stream,
      target = some (.stream stream) ∧
        stream.device.content = device.content ++ accepted rest.transfers
  complete : ending = .success ↔ accepted rest.transfers = data
  fails : ending ≠ .success → ∃ fault, ending = .failed (failureOf data fault)
  progresses :
    ending = .success → ∀ transfer ∈ rest.transfers, transfer.Progresses

section Fills

variable {device : Device} {data : Bytes} {rest : Trace} {ending : Ending}

/-- All that is written is written in one go. -/
theorem Fills.of_pour
    {stuck : Fault} {stream : Stream}
    (unshown : ∀ shown, .shown shown ∉ rest)
    (reached :
      accepted rest.transfers =
        accepted (pour outputName stuck device data).transfers)
    (progresses :
      (pour outputName stuck device data).fault = none →
        ∀ transfer ∈ rest.transfers, transfer.Progresses)
    (same : stream.device = (pour outputName stuck device data).device)
    (ends :
      ending =
        match (pour outputName stuck device data).fault with
        | some fault => .failed (failureOf data fault)
        | none => .success) :
    Fills device data rest (some (.stream stream)) ending := by
  have splits := pour_splits outputName stuck device data
  have whole := splits.fault
  have offer := splits.offer
  rw [← reached] at offer
  have content :
      stream.device.content = device.content ++ accepted rest.transfers := by
    rw [same, splits.content, reached]
  cases finished : (pour outputName stuck device data).fault with
  | none =>
      rw [finished] at ends
      rw [whole.mp finished, List.append_nil] at offer
      exact ⟨unshown, offer ▸ List.prefix_rfl, ⟨stream, rfl, content⟩,
        iff_of_true ends offer, fun unfinished => absurd ends unfinished,
        fun _ => progresses finished⟩
  | some fault =>
      rw [finished] at ends whole
      have unfinished : ending ≠ .success := by
        rw [ends]
        exact nofun
      refine ⟨unshown, ⟨_, offer⟩, ⟨stream, rfl, content⟩,
        iff_of_false unfinished ?_, fun _ => ⟨fault, ends⟩,
        fun success => absurd success unfinished⟩
      intro all
      rw [all] at offer
      cases whole.mpr (List.append_right_eq_self.mp offer)

theorem unshown_printTrace (transfers : List Transfer) (shown : Bytes) :
    .shown shown ∉ printTrace transfers := by
  simp [printTrace, Trace.reading, Trace.holding]

@[simp]
theorem transfers_printTrace (transfers : List Transfer) :
    (printTrace transfers).transfers = transfers := by
  rw [printTrace, Trace.transfers_reading, Trace.transfers_holding,
    Trace.transfers_map]

theorem unshown_wholeTrace
    (count : Nat) (early late : List Transfer) (shown : Bytes) :
    .shown shown ∉ wholeTrace count early late := by
  simp [wholeTrace, printTrace, flushTrace, Trace.reading, Trace.holding]

@[simp]
theorem transfers_flushTrace (transfers : List Transfer) :
    (flushTrace transfers).transfers = transfers := by
  have inside :=
    Trace.transfers_holding (transfers.map .transfer) (.channel .shared)
  rw [Trace.transfers_map] at inside
  rw [flushTrace, Trace.transfers_append]
  exact (List.append_nil _).trans inside

@[simp]
theorem transfers_wholeTrace (count : Nat) (early late : List Transfer) :
    (wholeTrace count early late).transfers = early ++ late := by
  rw [wholeTrace, Trace.transfers_append, Trace.transfers_append,
    transfers_printTrace, transfers_flushTrace]
  exact congrArg (· ++ late) (List.append_nil early)

theorem progress_then_flush
    {transfers : List Transfer}
    (progress : ∀ transfer ∈ transfers, transfer.Progresses) :
    ∀ transfer ∈ transfers ++ [.flushed outputName], transfer.Progresses :=
  List.forall_mem_append.mpr ⟨progress, List.forall_mem_singleton.mpr trivial⟩

/-- Short data is kept, and the flush writes it out. -/
theorem fills_of_kept
    {poured : Poured}
    (pours : poured = pour outputName .heldUnwritten device data)
    (short : data.length < outputCapacity) (count : Nat) {stream : Stream}
    (same : stream.device = poured.device) :
    Fills device data
      (wholeTrace count []
        (poured.transfers ++
          if poured.fault = none then [.flushed outputName] else []))
      (some (.stream stream)) (flushEnding poured.fault) := by
  subst pours
  apply Fills.of_pour (unshown_wholeTrace count _ _) _ _ same
  · cases finished :
      (pour outputName .heldUnwritten device data).fault with
    | none => rfl
    | some fault => simp [flushEnding, failureOf, short]
  · rw [transfers_wholeTrace, List.nil_append, accepted_append]
    split <;> exact List.append_nil _
  · intro finished
    rw [transfers_wholeTrace, List.nil_append, if_pos finished]
    exact progress_then_flush (progress_of_pour finished)

/-- Data that went past the buffer is all there before the flush. -/
theorem fills_of_passed
    {poured : Poured}
    (pours : poured = pour outputName .textUnwritten device data)
    (finished : poured.fault = none) (count : Nat) {stream : Stream}
    (same : stream.device = poured.device) :
    Fills device data
      (wholeTrace count poured.transfers [.flushed outputName])
      (some (.stream stream)) .success := by
  subst pours
  apply Fills.of_pour (unshown_wholeTrace count _ _) _ _ same
  · rw [finished]
  · rw [transfers_wholeTrace, accepted_append]
    exact List.append_nil _
  · rw [transfers_wholeTrace]
    exact fun _ => progress_then_flush (progress_of_pour finished)

/-- Data that did not get past the buffer is lost from where it failed. -/
theorem fills_of_refused
    {poured : Poured} {fault : Fault}
    (pours : poured = pour outputName .textUnwritten device data)
    (long : ¬ data.length < outputCapacity)
    (refused : poured.fault = some fault) {stream : Stream}
    (same : stream.device = poured.device) :
    Fills device data (printTrace poured.transfers) (some (.stream stream))
      (.failed (.printing fault)) := by
  subst pours
  apply Fills.of_pour (unshown_printTrace _) _ _ same
  · simp [refused, failureOf, long]
  · rw [transfers_printTrace]
  · intro finished
    rw [refused] at finished
    cases finished

/-- Whatever the options are that a file was opened by, a message fills it the
same way. -/
theorem exists_fills (device : Device) (message : String) :
    ∃ rest target ending,
      Fills device.unfailing (bytes message) rest target ending ∧
        ∀ surroundings options destination,
          Opens surroundings options destination ⟨some (targetOn device)⟩ →
            Continues surroundings ⟨options, .printf message⟩ destination
              rest target ending := by
  let data := bytes message
  let file := device.unfailing
  let stream := Stream.buffered outputName file outputCapacity
  have print :
      stream.print data =
        if data.length < outputCapacity then (stream.keep data, [], none)
        else stream.writeThrough data :=
    Stream.print_of_idle rfl rfl data
  by_cases short : data.length < outputCapacity
  · rw [if_pos short] at print
    let poured := pour outputName .heldUnwritten file data
    let last : Stream :=
      { stream with device := poured.device, held := poured.rest }
    have written :
        (stream.keep data).writeOut =
          (last, poured.transfers, poured.fault) := rfl
    have flush := Stream.flush_of_writeOut written
    have agrees : (stream.keep data).device.flush.2 = none := rfl
    have unscripted : last.device.flushes = [] :=
      (Stream.writeOut_frames written).flushes
    rw [agrees, Option.or_none,
      Stream.flushedUnless_of_unscripted unscripted] at flush
    exact
      ⟨_, some (.stream last), _, fills_of_kept rfl short data.length rfl,
        fun surroundings options destination opens =>
          opens.print_succeeds print flush⟩
  · rw [if_neg short] at print
    let poured := pour outputName .textUnwritten file data
    let after : Stream := { stream with device := poured.device }
    have through :
        stream.writeThrough data =
          (after, poured.transfers, poured.fault) := rfl
    rw [through] at print
    cases finished : poured.fault with
    | none =>
        rw [finished] at print
        have frames : file.Frames after.device :=
          (pour_splits outputName .textUnwritten file data).frames
        have agrees : after.device.flush = (after.device, none) := by
          rw [Device.flush, frames.flushes, frames.flushFault]
          rfl
        have flush :
            after.flush = (after, [.flushed outputName], none) := by
          rw [Stream.flush_of_idle rfl, agrees]
          rfl
        exact
          ⟨_, some (.stream after), _,
            fills_of_passed rfl finished data.length rfl,
            fun surroundings options destination opens =>
              opens.print_succeeds print flush⟩
    | some fault =>
        rw [finished] at print
        exact
          ⟨_, some (.stream after), _, fills_of_refused rfl short finished rfl,
            fun surroundings options destination opens =>
              opens.print_fails print⟩

end Fills

/-! ## Other ways to go on -/

section Otherwise

variable {surroundings : Surroundings} {options : Options}

/-- What is seen of a print on standard output and of the flush after it. -/
def showTrace (data : Bytes) : Trace :=
  Trace.reading .shared (Trace.holding (.channel .shared) [.shown data]) ++
    [.record (printedRecord data.length)] ++ flushTrace []

theorem shown_showTrace (data : Bytes) (destination : Option Destination) :
    (showTrace data).flatMap (Outcome.shownBy destination) = data := by
  simp [showTrace, flushTrace, Trace.reading, Trace.holding, Outcome.shownBy,
    Outcome.filed]

/-- Without a file a message is shown, and the run is a success. -/
theorem Opens.print_shows
    (opens : Opens surroundings options none Channel.unset)
    (message : String) :
    Continues surroundings ⟨options, .printf message⟩ none
      (showTrace (bytes message)) (some .screen) .success := by
  let host := (setUp surroundings options).host
  let printed : Host :=
    { host.setChannel .shared ⟨some .screen⟩ with
        ports.screen := host.ports.screen.print (bytes message) }
  have performed :
      perform surroundings host (.printf message) =
        (printed,
          Trace.reading .shared
              (Trace.holding (.channel .shared) [.shown (bytes message)]) ++
            [.record (printedRecord (bytes message).length)],
          .success) := by
    rw [perform, Host.printBytes, opens.channel]
    rfl
  have finished :
      finish printed =
        ({ printed with ports.screen := printed.ports.screen.flush },
          flushTrace [], .success) := rfl
  have ran := run_of_success opens.opened performed finished
  constructor <;> rw [ran]
  · exact List.append_assoc _ _ _
  · rfl

/-- Without the file that is asked for there is nothing after the set-up. -/
theorem continues_of_missing
    {path : Bytes} {fault : Fault} (asked : options.output = some path)
    (missing : surroundings.openFile path = .error fault)
    (command : Command) :
    Continues surroundings ⟨options, command⟩ none [] none
      (.failed (.system fault)) := by
  have ends := setUp_eq surroundings options
  simp only [openOutput, asked, missing] at ends
  have ran :
      Request.run surroundings ⟨options, command⟩ =
        ⟨(setUp surroundings options).host,
          (setUp surroundings options).trace, none,
          .failed (.system fault)⟩ := by
    rw [Request.run, ends]
  constructor <;> rw [ran]
  · exact (List.append_nil _).symm
  · rw [ends]
    rfl

end Otherwise

/-! ## Other commands -/

section Unprinted

variable {surroundings : Surroundings} {options : Options}
  {destination : Option Destination} {device : Device} {host : Host}

/-- An emission writes to no stream and keeps the channel. -/
theorem emit_spares
    (idle : host.script = []) (category : String) (origin : Origin)
    (message : Message) :
    Trace.transfers (host.emit .shared category origin message).2 = [] ∧
      ((host.emit .shared category origin message).1.hub .shared).channel =
          (host.hub .shared).channel ∧
        ((host.emit .shared category origin message).1.hub
            .shared).statusPrinter =
          (host.hub .shared).statusPrinter := by
  obtain ⟨hub, _, _⟩ := Host.emit_frame idle category origin message
  refine ⟨?_, ?_, ?_⟩
  · exact
      Trace.transfers_of_conveyance
        (host.conveyance_emit .shared idle category origin message)
  · rw [hub]
  · rw [hub]

/-- A fatal error flushes the stream, which holds nothing back. -/
theorem fatal_spares
    (idle : host.script = [])
    (streaming : (host.hub .shared).channel = ⟨some (targetOn device)⟩)
    (silent : (host.hub .shared).statusPrinter = some ⟨.native, []⟩)
    (origin : Origin) (message : String) :
    accepted (Trace.transfers (host.fatal .shared origin message).2) = [] ∧
      ((host.fatal .shared origin message).1.hub .shared).channel =
        ⟨some (targetOn device)⟩ := by
  obtain ⟨unwritten, channel, printer⟩ :=
    emit_spares idle Severity.error.name origin (Message.text message)
  rw [Host.emit_eq, Trace.transfers_reading] at unwritten
  rw [Host.emit_eq, streaming] at channel
  rw [Host.emit_eq, silent] at printer
  have flushed := flushOutput_of_stream channel (flush_targetOn device)
  rw [Host.fatal]
  simp only [Host.printStatus_of_some printer, Host.performAll, flushed]
  refine ⟨?_, rfl⟩
  simp only [Trace.transfers_append, unwritten, Trace.transfers_holding]
  rfl

theorem showLine_spares (host : Host) (text : Bytes) :
    Trace.transfers (showLine host text).2 = [] ∧
      ((showLine host text).1.hub .shared).channel =
        (host.hub .shared).channel :=
  ⟨rfl, rfl⟩

/-- No command but a print has anything written to the file. -/
theorem perform_spares
    (idle : host.script = [])
    (streaming : (host.hub .shared).channel = ⟨some (targetOn device)⟩)
    (silent : (host.hub .shared).statusPrinter = some ⟨.native, []⟩)
    {command : Command} (unprinted : ∀ message, command ≠ .printf message) :
    accepted (Trace.transfers (perform surroundings host command).2.1) = [] ∧
      ((perform surroundings host command).1.hub .shared).channel =
        ⟨some (targetOn device)⟩ := by
  have emits (category message : String) :=
    emit_spares idle category surroundings.origin (Message.text message)
  cases command with
  | version verbose report =>
      obtain ⟨unwritten, channel⟩ := showLine_spares host _
      exact ⟨congrArg accepted unwritten, channel.trans streaming⟩
  | crashDump directory =>
      obtain ⟨unwritten, channel⟩ := showLine_spares host _
      exact ⟨congrArg accepted unwritten, channel.trans streaming⟩
  | log category message =>
      obtain ⟨unwritten, channel, _⟩ := emits category message
      exact ⟨congrArg accepted unwritten, channel.trans streaming⟩
  | severity level message =>
      rw [perform]
      cases Severity.ofIndex level with
      | error fault => exact ⟨rfl, streaming⟩
      | ok severity =>
          obtain ⟨unwritten, channel, _⟩ := emits severity.name message
          exact ⟨congrArg accepted unwritten, channel.trans streaming⟩
  | printf message => exact absurd rfl (unprinted message)
  | fatal message =>
      exact fatal_spares idle streaming silent surroundings.origin message

theorem Opens.run_spares
    (opens :
      Opens surroundings options destination ⟨some (targetOn device)⟩)
    {command : Command} (unprinted : ∀ message, command ≠ .printf message) :
    accepted
          (Trace.transfers
            (Request.run surroundings ⟨options, command⟩).trace) = [] ∧
      (Request.run surroundings ⟨options, command⟩).file? =
        some device.content := by
  obtain ⟨unwritten, channel⟩ :=
    perform_spares opens.idle opens.channel opens.statusPrinter unprinted
  have prepared := transfers_setUp surroundings options
  cases performed :
      perform surroundings (setUp surroundings options).host command with
  | mk done result =>
      obtain ⟨during, ending⟩ := result
      rw [performed] at unwritten channel
      have target :
          done.shared.channel.target = some (targetOn device) :=
        congrArg Channel.target channel
      cases ending with
      | success =>
          have finished := finish_of_stream channel (flush_targetOn device)
          rw [run_of_success opens.opened performed finished]
          simp only [Trace.transfers_append, accepted_append, prepared,
            unwritten, transfers_flushTrace]
          exact ⟨rfl, rfl⟩
      | _ =>
          rw [run_of_end opens.opened performed nofun]
          simp only [Trace.transfers_append, accepted_append, prepared,
            unwritten, Outcome.file?, target]
          exact ⟨rfl, rfl⟩

end Unprinted

end SignalHub.CommandLine
