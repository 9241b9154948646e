import Mathlib.Data.List.Forall2
import SignalHub.Proofs.Acting
import SignalHub.Proofs.Output.HostFile

/-!
# What becomes of a hub's output

Whoever prints on a hub, directly or from inside of another call, its target
stays where it is and gets what is printed: a stream gets a chunk for every
print, and a file that refuses nothing gets every text.
-/

namespace SignalHub

open Output Text

/-- What a print leaves on a stream: its whole text if it succeeded, a proper
beginning of it if not. -/
def Leaves (print : Bytes × Bool) (chunk : Bytes) : Prop :=
  if print.2 then chunk = print.1
  else chunk <+: print.1 ∧ chunk ≠ print.1

/-- The prints on a hub from inside of calls, and whether they succeeded.  These
are all on the shared hub. -/
def Trace.printsOn (scope : Scope) (trace : Trace) : List (Bytes × Bool) :=
  match scope with
  | .shared => trace.prints.map fun print => (bytes print.1, print.2.isOk)
  | .own => []

namespace Trace

@[simp]
theorem printsOn_append (scope : Scope) (left right : Trace) :
    printsOn scope (left ++ right) =
      printsOn scope left ++ printsOn scope right := by
  cases scope with
  | own => rfl
  | shared => simp [printsOn]

theorem printsOn_of_silent
    {trace : Trace} (silent : trace.prints = []) (scope : Scope) :
    printsOn scope trace = [] := by
  cases scope with
  | own => rfl
  | shared => rw [printsOn, silent, List.map_nil]

end Trace

namespace Output.Channel

theorem stream?_eq_current (channel : Channel) :
    channel.stream? = channel.current.stream? := by
  rw [stream?, current]
  cases channel.target <;> rfl

section Print

variable {channel : Channel} {ports : Ports} {data : Bytes}

/-- Where no stream is the target, it stays where it is. -/
theorem current_print (elsewhere : channel.stream? = none) :
    (channel.print ports data).1.current = channel.current := by
  rw [print]
  rcases current_of_none elsewhere with screen | ⟨name, file⟩
  · rw [screen]
    rfl
  · rw [file]
    rfl

theorem current_flush (elsewhere : channel.stream? = none) :
    (channel.flush ports).1.current = channel.current := by
  rw [flush]
  rcases current_of_none elsewhere with screen | ⟨name, file⟩
  · simp only [screen]
  · simp only [file]

theorem print_of_file
    {name : String} (here : channel.current = .file name)
    (willing : (ports.file name).Willing) :
    ∃ after,
      channel.print ports data =
          (⟨some (.file name)⟩, ports.setFile name after, [],
            .ok data.length) ∧
        after.Willing ∧ after.content = (ports.file name).content ++ data := by
  obtain ⟨after, printed, willingThen, content⟩ := willing.print data
  refine ⟨after, ?_, willingThen, content⟩
  rw [print, here]
  simp only [printed]
  rfl

theorem flush_of_file
    {name : String} (here : channel.current = .file name)
    (willing : (ports.file name).Willing) :
    ∃ after,
      channel.flush ports =
          (channel, ports.setFile name after, [], none) ∧
        after.Willing ∧ after.held = [] ∧
        after.device.content = (ports.file name).content := by
  obtain ⟨after, flushed, willingThen, empty, content⟩ := willing.flush
  refine ⟨after, ?_, willingThen, empty, content⟩
  rw [flush, here]
  simp only [flushed]

end Print

end Output.Channel

namespace Host

/-- What became of a hub's output after these prints on it.  Of a file this is
said only if nobody else prints to files. -/
structure Carries
    (scope : Scope) (alone : Prop) (host after : Host)
    (prints : List (Bytes × Bool)) : Prop where
  stream : ∀ stream, (host.hub scope).channel.stream? = some stream →
    ∃ last transfers chunks,
      (after.hub scope).channel.stream? = some last ∧
        stream.Adds last transfers chunks.flatten ∧
        List.Forall₂ Leaves prints chunks
  elsewhere : (host.hub scope).channel.stream? = none →
    (after.hub scope).channel.current = (host.hub scope).channel.current
  file : alone → ∀ name,
    (host.hub scope).channel.current = .file name →
      (host.ports.file name).Willing →
        (after.ports.file name).Willing ∧
          (after.ports.file name).content =
            (host.ports.file name).content ++
              (prints.map Prod.fst).flatten ∧
          ∀ print ∈ prints, print.2 = true

namespace Carries

variable {scope : Scope} {alone : Prop}

/-- A call that prints nothing and leaves the channel and the files. -/
theorem of_same
    {host after : Host}
    (channel : (after.hub scope).channel = (host.hub scope).channel)
    (files : alone → after.ports.files = host.ports.files) :
    Carries scope alone host after [] := by
  constructor
  · intro stream streaming
    refine
      ⟨stream, [], [], channel ▸ streaming, Stream.Adds.refl stream,
        List.Forall₂.nil⟩
  · intro _
    rw [channel]
  · intro byItself name _ willing
    have same : after.ports.file name = host.ports.file name := by
      rw [Ports.file, Ports.file, Ports.file?, Ports.file?, files byItself]
    rw [same]
    exact ⟨willing, (List.append_nil _).symm, List.forall_mem_nil _⟩

theorem trans
    {first second third : Host} {early late : List (Bytes × Bool)}
    (begins : Carries scope alone first second early)
    (continues : Carries scope alone second third late) :
    Carries scope alone first third (early ++ late) := by
  constructor
  · intro stream streaming
    obtain ⟨middle, transfers, chunks, streamingThen, adds, leaves⟩ :=
      begins.stream stream streaming
    obtain ⟨last, more, others, streamingLast, addsThen, leavesThen⟩ :=
      continues.stream middle streamingThen
    refine
      ⟨last, transfers ++ more, chunks ++ others, streamingLast, ?_,
        List.rel_append leaves leavesThen⟩
    rw [List.flatten_append]
    exact adds.trans addsThen
  · intro elsewhere
    have same := begins.elsewhere elsewhere
    rw [Channel.stream?_eq_current, ← same,
      ← Channel.stream?_eq_current] at elsewhere
    exact (continues.elsewhere elsewhere).trans same
  · intro byItself name here willing
    -- A file is no stream, so it stays the target between the two.
    have elsewhere : (first.hub scope).channel.stream? = none := by
      rw [Channel.stream?_eq_current, here]
      rfl
    have still := (begins.elsewhere elsewhere).trans here
    obtain ⟨willingThen, content, succeed⟩ :=
      begins.file byItself name here willing
    obtain ⟨willingLast, contentThen, succeedThen⟩ :=
      continues.file byItself name still willingThen
    refine ⟨willingLast, ?_, ?_⟩
    · rw [contentThen, content, List.map_append, List.flatten_append,
        List.append_assoc]
    · intro print member
      rcases List.mem_append.mp member with earlier | later
      · exact succeed print earlier
      · exact succeedThen print later

/-- One print on the hub. -/
theorem printBytes (host : Host) (data : Bytes) :
    Carries scope alone host (host.printBytes scope data).1
      [(data, (host.printBytes scope data).2.2.isOk)] := by
  have channel :
      ((host.printBytes scope data).1.hub scope).channel =
        ((host.hub scope).channel.print host.ports data).1 := by
    simp [Host.printBytes, setChannel]
  constructor
  · intro stream streaming
    cases outcome : stream.print data with
    | mk last result =>
        obtain ⟨transfers, fault⟩ := result
        obtain ⟨chunk, adds, beginning, whole⟩ := Stream.print_adds outcome
        have printed :=
          Channel.print_of_stream streaming outcome host.ports
        refine ⟨last, transfers, [chunk], ?_, ?_, ?_⟩
        · rw [channel, printed]
          rfl
        · rw [List.flatten_singleton]
          exact adds
        · refine List.Forall₂.cons ?_ List.Forall₂.nil
          rw [Leaves, Host.printBytes, printed]
          cases fault with
          | none => exact whole.mp rfl
          | some cause =>
              refine ⟨beginning, ?_⟩
              intro same
              cases whole.mpr same
  · intro elsewhere
    rw [channel]
    exact Channel.current_print elsewhere
  · intro _ name here willing
    obtain ⟨after, printed, willingThen, content⟩ :=
      Channel.print_of_file here willing
    have file :
        (host.printBytes scope data).1.ports.file name = after := by
      rw [Host.printBytes, printed]
      exact Ports.file_setFile host.ports name after
    rw [file]
    refine ⟨willingThen, ?_, ?_⟩
    · simpa using content
    · intro print member
      rw [List.mem_singleton.mp member, Host.printBytes, printed]
      rfl

/-- A flush moves what is held, and adds nothing. -/
theorem flushOutput (host : Host) :
    Carries scope alone host (host.flushOutput scope).1 [] := by
  have channel :
      ((host.flushOutput scope).1.hub scope).channel =
        ((host.hub scope).channel.flush host.ports).1 := by
    simp [Host.flushOutput, setChannel]
  constructor
  · intro stream streaming
    cases outcome : stream.flush with
    | mk last result =>
        obtain ⟨transfers, fault⟩ := result
        obtain ⟨adds, _, _⟩ := Stream.flush_adds outcome
        refine ⟨last, transfers, [], ?_, adds, List.Forall₂.nil⟩
        rw [channel, Channel.flush_of_stream streaming outcome]
        rfl
  · intro elsewhere
    rw [channel]
    exact Channel.current_flush elsewhere
  · intro _ name here willing
    obtain ⟨after, flushed, willingThen, empty, content⟩ :=
      Channel.flush_of_file here willing
    have file : (host.flushOutput scope).1.ports.file name = after := by
      rw [Host.flushOutput, flushed]
      exact Ports.file_setFile host.ports name after
    rw [file]
    refine ⟨willingThen, ?_, List.forall_mem_nil _⟩
    rw [HostFile.content, empty, content]
    rfl

theorem weaken
    {other : Prop} {host after : Host} {prints : List (Bytes × Bool)}
    (carries : Carries scope alone host after prints)
    (implies : other → alone) :
    Carries scope other host after prints :=
  ⟨carries.stream, carries.elsewhere,
    fun byItself => carries.file (implies byItself)⟩

/-- A print on either hub. -/
theorem printBytes_within
    {within : Scope} (only : alone → within = .shared ∧ scope = .shared)
    (host : Host) (data : Bytes) :
    Carries scope alone host (host.printBytes within data).1
      (if within = scope then
        [(data, (host.printBytes within data).2.2.isOk)]
      else []) := by
  by_cases same : within = scope
  · rw [if_pos same, same]
    exact printBytes host data
  · rw [if_neg same]
    apply of_same
    · have other := host.hub_setHub_of_ne (Ne.symm same)
      simp only [Host.printBytes, setChannel, hub_withPorts, other]
    · intro byItself
      obtain ⟨here, there⟩ := only byItself
      exact absurd (here.trans there.symm) same

/-- A flush of either hub. -/
theorem flushOutput_within
    {within : Scope} (only : alone → within = .shared ∧ scope = .shared)
    (host : Host) :
    Carries scope alone host (host.flushOutput within).1 [] := by
  by_cases same : within = scope
  · rw [same]
    exact flushOutput host
  · apply of_same
    · have other := host.hub_setHub_of_ne (Ne.symm same)
      simp only [Host.flushOutput, setChannel, hub_withPorts, other]
    · intro byItself
      obtain ⟨here, there⟩ := only byItself
      exact absurd (here.trans there.symm) same

/-- The other hub's output may even be replaced. -/
theorem replaceOutput_elsewhere
    {within : Scope} (elsewhere : within ≠ scope) (host : Host)
    (target : Option Target) (only : alone → within = scope) :
    Carries scope alone host (host.replaceOutput within target).1 [] := by
  apply of_same
  · have other := host.hub_setHub_of_ne (Ne.symm elsewhere)
    simp only [Host.replaceOutput, setChannel, hub_withPorts, other]
  · intro byItself
    exact absurd (only byItself) elsewhere

end Carries

/-! ## From inside of a call -/

/-- What a sink and the functions of the host do to a hub: its output goes on,
no status printer runs, and nothing is flushed or closed. -/
structure Acted
    (watched : Scope) (alone : Prop) (host after : Host) (trace : Trace) :
    Prop where
  carries : Carries watched alone host after (trace.printsOn watched)
  statusPrinter :
    (after.hub watched).statusPrinter = (host.hub watched).statusPrinter
  unreported : trace.statuses = []
  writes : trace.transfers.all Transfer.writes

section Acted

variable {watched : Scope} {alone : Prop} {host after : Host} {trace : Trace}

theorem Acted.of_conveyance
    (conveyed : trace.all Trace.isConveyance)
    (channel : (after.hub watched).channel = (host.hub watched).channel)
    (statusPrinter :
      (after.hub watched).statusPrinter = (host.hub watched).statusPrinter)
    (files : after.ports.files = host.ports.files) :
    Acted watched alone host after trace := by
  constructor
  · rw [Trace.printsOn_of_silent (Trace.prints_of_conveyance conveyed)]
    exact Carries.of_same channel fun _ => files
  · exact statusPrinter
  · exact Trace.statuses_of_conveyance conveyed
  · rw [Trace.transfers_of_conveyance conveyed]
    rfl

theorem Acted.printAction
    (only : alone → watched = .shared) (host : Host) (text : String) :
    Acted watched alone host (host.printAction text).1
      (host.printAction text).2 := by
  obtain ⟨channel, shared, own⟩ := host.hub_printAction text
  constructor
  · cases watched with
    | shared =>
        rw [Trace.printsOn, prints_printAction]
        exact Carries.printBytes host (bytes text)
    | own =>
        apply Carries.of_same
        · rw [own]
        · intro byItself
          cases only byItself
  · cases watched with
    | shared => rw [shared]
    | own => rw [own]
  · exact statuses_printAction host text
  · rw [Host.printAction, Trace.transfers_append, Trace.transfers_reading,
      Trace.transfers_formatted, printBytes, Trace.transfers_holding,
      List.all_append, Channel.writes_print]
    rfl

theorem Acted.receive
    (host : Host) (within : Scope) (sink : Sink) (signal : Signal) :
    Acted watched alone host (host.receive within sink signal).1
      (.delivery sink signal :: (host.receive within sink signal).2) := by
  have conveyed :
      (Event.delivery sink signal ::
          (host.receive within sink signal).2).all Trace.isConveyance :=
    host.conveyance_receive within sink signal
  obtain ⟨channel, statusPrinter, files⟩ :=
    host.receive_frame_output within watched sink signal
  exact Acted.of_conveyance conveyed channel statusPrinter files

theorem Acted.pollAction (host : Host) :
    Acted watched alone host host.pollAction.1 host.pollAction.2 := by
  obtain ⟨early, signals, traced, conveyed⟩ := host.pollAction_conveyance
  have frame := host.pollBuffer_frame .shared watched
  have silent : host.pollAction.2.prints = [] := by
    rw [traced, Trace.prints_append, Trace.prints_of_conveyance conveyed]
    rfl
  constructor
  · rw [Trace.printsOn_of_silent silent]
    exact Carries.of_same frame.1 fun _ => congrArg Ports.files frame.2.2
  · exact frame.2.1
  · rw [traced, Trace.statuses_append,
      Trace.statuses_of_conveyance conveyed]
    rfl
  · rw [traced, Trace.transfers_append,
      Trace.transfers_of_conveyance conveyed]
    rfl

theorem Acted.continued
    {first second third : Host} {early late : Trace}
    (begins : Acted watched alone first second early)
    (continues : Acted watched alone second third late) :
    Acted watched alone first third (early ++ late) := by
  constructor
  · rw [Trace.printsOn_append]
    exact begins.carries.trans continues.carries
  · exact continues.statusPrinter.trans begins.statusPrinter
  · rw [Trace.statuses_append, begins.unreported, continues.unreported]
    rfl
  · rw [Trace.transfers_append, List.all_append, Bool.and_eq_true]
    exact ⟨begins.writes, continues.writes⟩

theorem respected_acted
    (scope : Scope) (only : alone → watched = .shared) :
    Respected scope (Acted watched alone) := by
  constructor
  · intro host trace asks
    exact
      Acted.of_conveyance (Trace.conveyance_of_asking asks) rfl rfl rfl
  · exact Acted.continued
  · intro host script
    apply Acted.of_conveyance
    · rfl
    · rw [hub_withScript]
    · rw [hub_withScript]
    · rfl
  · intro within host after trace inside
    cases within with
    | own => exact inside
    | shared =>
        have entered : Acted watched alone host host [.lock .share] :=
          Acted.of_conveyance rfl rfl rfl rfl
        have left : Acted watched alone after after [.lock .unshare] :=
          Acted.of_conveyance rfl rfl rfl rfl
        exact (entered.continued inside).continued left
  · intro host within sink _ _ signal
    exact Acted.receive host within sink signal
  · intro host text
    exact Acted.printAction only host text
  · intro host
    exact Acted.pollAction host

end Acted

end Host

end SignalHub
