import SignalHub.CommandLine.WorkingDirectory
import SignalHub.Proofs.CommandLine.Printing

/-!
# Complete prints

A message that is printed to an opened file reaches it whole, or the run fails.
What the options let through makes no difference to a print, and without the file
that is asked for nothing is printed at all.
-/

namespace SignalHub.CommandLine

open Output Text

/-! ## What is seen of a run -/

theorem accepted_transfers (trace : Trace) :
    accepted (Trace.transfers trace) = trace.flatMap Outcome.filed := by
  rw [accepted, Trace.transfers, List.filterMap_eq_flatMap_toList,
    List.flatMap_assoc]
  apply List.flatMap_congr
  intro event _
  cases event with
  | transfer transfer =>
      cases transfer with
      | wrote stream data => exact List.append_nil data
      | _ => rfl
  | _ => rfl

/-- A run that shows nothing itself shows what the file accepts, if that is the
standard output. -/
theorem shownBy_of_unshown
    {trace : Trace} (unshown : ∀ shown, .shown shown ∉ trace)
    (destination : Option Destination) :
    trace.flatMap (Outcome.shownBy destination) =
      if destination = some .standardOutput then
        accepted (Trace.transfers trace)
      else [] := by
  have each : ∀ event ∈ trace,
      Outcome.shownBy destination event =
        if destination = some .standardOutput then Outcome.filed event
        else [] := by
    intro event member
    cases event with
    | shown data => exact absurd member (unshown data)
    | _ => rfl
  rw [List.flatMap_congr each, accepted_transfers]
  split
  · rfl
  · exact List.flatMap_eq_nil_iff.mpr fun _ _ => rfl

/-- The bytes that the device of a target accepted, if it is a stream. -/
def contentOf : Option Target → Option Bytes
  | some (.stream stream) => some stream.device.content
  | _ => none

theorem file?_eq (outcome : Outcome) :
    outcome.file? = contentOf outcome.host.shared.channel.target := rfl

section Seen

variable {surroundings : Surroundings} {request : Request}
  {destination : Option Destination} {rest : Trace} {target : Option Target}
  {ending : Ending}
  (continues :
    Continues surroundings request destination rest target ending)

include continues

/-- The set-up shows nothing. -/
theorem Continues.shown (alive : ending ≠ .aborted) :
    (request.run surroundings).shown =
      rest.flatMap (Outcome.shownBy destination) := by
  have silent :=
    (setUp_puts surroundings request.options destination).output
  rw [Outcome.shown, continues.ending, continues.destination, continues.trace,
    List.flatMap_append, silent, List.nil_append]
  cases ending with
  | aborted => exact absurd rfl alive
  | _ => rfl

theorem Continues.transfers :
    Trace.transfers (request.run surroundings).trace =
      Trace.transfers rest := by
  rw [continues.trace, Trace.transfers_append, transfers_setUp,
    List.nil_append]

theorem Continues.file? :
    (request.run surroundings).file? = contentOf target := by
  rw [file?_eq, continues.target]

/-- On standard error the options show in one record at most. -/
theorem Continues.errors :
    (request.run surroundings).errors surroundings =
      written surroundings.journal.2 ++
        enabledNote surroundings request.options ++
          (String.join (rest.map (Outcome.notedBy surroundings destination)) ++
            written (ending.lines surroundings.emphasises)) := by
  have noted :=
    (setUp_puts surroundings request.options destination).errors
  rw [Outcome.errors, continues.ending, continues.destination,
    continues.trace, List.map_append, String.join_append, noted]
  simp only [String.append_assoc]

end Seen

/-! ## Prints are complete -/

/-- A run that prints a message to an opened file. -/
structure Delivers
    (file : OpenedFile) (message : String) (outcome : Outcome) : Prop where
  /-- The run itself shows nothing. -/
  silent : ∀ shown, .shown shown ∉ outcome.trace
  shown :
    outcome.shown =
      if file.destination = .standardOutput then
        accepted outcome.trace.transfers
      else []
  beginning : accepted outcome.trace.transfers <+: bytes message
  content :
    outcome.file? =
      some (file.device.content ++ accepted outcome.trace.transfers)
  success :
    outcome.code? = some 0 ↔
      accepted outcome.trace.transfers = bytes message
  failure :
    outcome.code? ≠ some 0 →
      outcome.code? = some 1 ∧
        ∃ fault, outcome.ending = .failed (failureOf (bytes message) fault)
  refused :
    ∀ transfer ∈ outcome.trace.transfers,
      ¬ transfer.Progresses → outcome.code? = some 1

/-- A run that shows a message on standard output. -/
structure Shows (message : String) (outcome : Outcome) : Prop where
  code : outcome.code? = some 0
  shown : outcome.shown = bytes message
  unfiled : outcome.file? = none

/-- A run in which nothing was written to a file. -/
structure Spares (file : OpenedFile) (outcome : Outcome) : Prop where
  unwritten : accepted outcome.trace.transfers = []
  content : outcome.file? = some file.device.content

/-- A run that fails before anything is emitted or printed. -/
structure Stops (fault : Fault) (outcome : Outcome) : Prop where
  ending : outcome.ending = .failed (.system fault)
  code : outcome.code? = some 1
  prepares : outcome.trace.all isPreparation
  shown : outcome.shown = []
  unfiled : outcome.file? = none

section Delivers

variable {surroundings : Surroundings} {options : Options}
  {file : OpenedFile} {device : Device} {message : String} {data : Bytes}
  {rest : Trace} {target : Option Target} {ending : Ending}

theorem Fills.failing
    (fills : Fills device data rest target ending)
    (unfinished : ending ≠ .success) : ending.code? = some 1 := by
  obtain ⟨fault, failed⟩ := fills.fails unfinished
  rw [failed]
  rfl

theorem Fills.succeeds (fills : Fills device data rest target ending) :
    ending.code? = some 0 ↔ ending = .success := by
  constructor
  · intro zero
    by_contra unfinished
    rw [fills.failing unfinished] at zero
    cases zero
  · intro success
    rw [success]
    rfl

theorem Fills.alive (fills : Fills device data rest target ending) :
    ending ≠ .aborted := by
  rintro rfl
  cases fills.failing nofun

theorem Fills.delivers
    (fills :
      Fills file.device.unfailing (bytes message) rest target ending)
    (continues :
      Continues surroundings ⟨options, .printf message⟩
        (some file.destination) rest target ending) :
    Delivers file message
      (Request.run surroundings ⟨options, .printf message⟩) := by
  constructor
  · intro shown member
    rw [continues.trace] at member
    rcases List.mem_append.mp member with before | after
    · have prepares :=
        List.all_eq_true.mp (preparation_setUp surroundings options) _ before
      cases prepares
    · exact fills.unshown shown after
  · rw [continues.shown fills.alive, continues.transfers,
      shownBy_of_unshown fills.unshown]
    simp only [Option.some.injEq]
  · rw [continues.transfers]
    exact fills.beginning
  · obtain ⟨stream, rfl, content⟩ := fills.content
    rw [continues.file?, continues.transfers, contentOf, content,
      Device.content_unfailing]
  · rw [Outcome.code?, continues.ending, continues.transfers,
      fills.succeeds]
    exact fills.complete
  · rw [Outcome.code?, continues.ending, Ne, fills.succeeds]
    intro unfinished
    exact ⟨fills.failing unfinished, fills.fails unfinished⟩
  · rw [Outcome.code?, continues.ending, continues.transfers]
    intro transfer member stuck
    apply fills.failing
    intro success
    exact stuck (fills.progresses success transfer member)

end Delivers

/-- What a run is judged by, apart from standard error. -/
structure View where
  ending : Ending
  destination : Option Destination
  shown : Bytes
  file? : Option Bytes
  transfers : List Transfer

def Outcome.view (outcome : Outcome) : View :=
  ⟨outcome.ending, outcome.destination, outcome.shown, outcome.file?,
    Trace.transfers outcome.trace⟩

/-- A print goes on from the set-up in the same way whatever is enabled and
wherever signals go. -/
theorem exists_continues
    (surroundings : Surroundings) (output : Option Bytes)
    (message : String) :
    ∃ destination rest target ending,
      ending ≠ .aborted ∧
        ∀ categories options, options.output = output →
          Continues { surroundings with categories }
            ⟨options, .printf message⟩ destination rest target ending := by
  cases output with
  | none =>
      refine
        ⟨none, showTrace (bytes message), some .screen, .success, nofun, ?_⟩
      intro categories options unasked
      exact (setUp_of_none unasked).print_shows message
  | some path =>
      cases opened : surroundings.openFile path with
      | error fault =>
          refine ⟨none, [], none, .failed (.system fault), nofun, ?_⟩
          intro categories options asked
          have missing :
              Surroundings.openFile { surroundings with categories } path =
                .error fault := opened
          exact continues_of_missing asked missing (.printf message)
      | ok file =>
          obtain ⟨rest, target, ending, fills, goesOn⟩ :=
            exists_fills file.device message
          refine
            ⟨some file.destination, rest, target, ending, fills.alive, ?_⟩
          intro categories options asked
          exact goesOn _ _ _ (setUp_of_file asked opened)

/-- What becomes of the output under options. -/
structure PrintsCompletely
    (surroundings : Surroundings) (options : Options) : Prop where
  toFile : ∀ path file message,
    options.output = some path → surroundings.openFile path = .ok file →
      Delivers file message
        (Request.run surroundings ⟨options, .printf message⟩)
  toScreen : ∀ message,
    options.output = none →
      Shows message (Request.run surroundings ⟨options, .printf message⟩)
  /-- No other command has anything written to the file. -/
  unprinted : ∀ path file command,
    options.output = some path → surroundings.openFile path = .ok file →
      (∀ message, command ≠ .printf message) →
        Spares file (Request.run surroundings ⟨options, command⟩)
  /-- Of the categories and of the other options there is one record on standard
  error at most. -/
  independent : ∀ message, ∃ view rest,
    ∀ categories others, others.output = options.output →
      (Request.run { surroundings with categories }
            ⟨others, .printf message⟩).view = view ∧
        (Request.run { surroundings with categories }
              ⟨others, .printf message⟩).errors
            { surroundings with categories } =
          written surroundings.journal.2 ++
            enabledNote { surroundings with categories } others ++ rest
  /-- Without the file nothing is emitted or printed, whatever the command
  is. -/
  missing : ∀ path fault command,
    options.output = some path → surroundings.openFile path = .error fault →
      Stops fault (Request.run surroundings ⟨options, command⟩)

/-- A printed message is complete, or the run is a failure. -/
theorem prints_are_complete
    (surroundings : Surroundings) (options : Options) :
    PrintsCompletely surroundings options := by
  constructor
  · intro path file message asked opened
    obtain ⟨rest, target, ending, fills, goesOn⟩ :=
      exists_fills file.device message
    exact fills.delivers (goesOn _ _ _ (setUp_of_file asked opened))
  · intro message unasked
    have opens : Opens surroundings options none Channel.unset :=
      setUp_of_none unasked
    have continues := opens.print_shows message
    constructor
    · rw [Outcome.code?, continues.ending]
      rfl
    · rw [continues.shown (by simp), shown_showTrace]
    · rw [continues.file?]
      rfl
  · intro path file command asked opened unprinted
    obtain ⟨unwritten, content⟩ :=
      (setUp_of_file asked opened).run_spares unprinted
    exact ⟨unwritten, content⟩
  · intro message
    obtain ⟨destination, rest, target, ending, alive, continues⟩ :=
      exists_continues surroundings options.output message
    refine
      ⟨⟨ending, destination, rest.flatMap (Outcome.shownBy destination),
          contentOf target, Trace.transfers rest⟩,
        String.join (rest.map (Outcome.notedBy surroundings destination)) ++
          written (ending.lines surroundings.emphasises),
        ?_⟩
    intro categories others same
    have goesOn := continues categories others same
    constructor
    · rw [Outcome.view, goesOn.ending, goesOn.destination,
        goesOn.shown alive, goesOn.file?, goesOn.transfers]
    · exact goesOn.errors
  · intro path fault command asked missing
    have continues := continues_of_missing asked missing command
    refine ⟨continues.ending, ?_, ?_, ?_, ?_⟩
    · rw [Outcome.code?, continues.ending]
      rfl
    · rw [continues.trace, List.append_nil]
      exact preparation_setUp surroundings options
    · rw [continues.shown (by simp)]
      rfl
    · rw [continues.file?]
      rfl

/-- Surroundings in which any file that is opened has room for three bytes. -/
def cramped : Surroundings :=
  { listing with
      openFile := fun _ =>
        .ok ⟨.elsewhere, { Device.boundless with room := some 3 }⟩ }

/-- The last flush finds no room for the rest of a short message. -/
theorem prints_are_complete_cramped :
    (Request.run cramped ⟨⟨[], false, false, some []⟩,
          .printf "hello"⟩).code? = some 1 ∧
      (Request.run cramped ⟨⟨[], false, false, some []⟩,
          .printf "hello"⟩).shown = [] ∧
      (Request.run cramped ⟨⟨[], false, false, some []⟩,
          .fatal "hello"⟩).file? = some [] := by
  have prints : PrintsCompletely cramped ⟨[], false, false, some []⟩ :=
    prints_are_complete cramped ⟨[], false, false, some []⟩
  let file : OpenedFile :=
    ⟨.elsewhere, { Device.boundless with room := some 3 }⟩
  have delivers := prints.toFile [] file "hello" rfl rfl
  have shown := delivers.shown
  rw [if_neg nofun] at shown
  have refused :
      .refused outputName .storageFull ∈
        Trace.transfers
          (Request.run cramped ⟨⟨[], false, false, some []⟩,
            .printf "hello"⟩).trace := by
    decide +kernel
  have spares := prints.unprinted [] file (.fatal "hello") rfl rfl nofun
  have failed := delivers.refused _ refused nofun
  exact ⟨failed, shown, spares.content⟩

/-- Surroundings in which the program runs in an empty directory and the journal
shows everything down to a level. -/
def talkative : Surroundings :=
  { listing with
      categories := none
      directives := some (bytes "debug")
      openFile := openInEmptyDirectory }

/-- A file can be the standard output itself: a print is seen there, and so is
a signal.  And standard error tells which categories are enabled, unless all of
them are. -/
theorem prints_show_on_standard_output :
    (run talkative
          [bytes "--output", bytes "/dev/stdout", bytes "printf",
            bytes "hello"]).shown =
        bytes "hello" ∧
      (run talkative
          [bytes "--output", bytes "/dev/stdout", bytes "--all", bytes "log",
            bytes "INFO", bytes "m"]).shown =
        bytes "10:00 INFO main:7 - m\n" ∧
      (run talkative [bytes "--all", bytes "printf", bytes "hello"]).errors
          talkative ≠
        (run talkative [bytes "printf", bytes "hello"]).errors talkative := by
  refine ⟨?_, ?_, ?_⟩ <;> decide +kernel

end SignalHub.CommandLine
