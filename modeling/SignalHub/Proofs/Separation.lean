import SignalHub.Foreign
import SignalHub.Proofs.Acting

/-!
# Two sides of a host

A host is looked at from two sides: the sinks and filters that signals meet, and
the channels that texts are printed on.  What is done on one side is done alike
whatever the other is like, and leaves the other as it is.
-/

namespace SignalHub

open Output Text

/-- The files of a host, apart from its screen. -/
def Output.Ports.filed (ports : Ports) : Ports :=
  { Ports.fresh with files := ports.files }

namespace Hub

/-- What signals meet. -/
def gated (hub : Hub) : Hub :=
  { fresh with sink := hub.sink, filter := hub.filter }

/-- What texts are printed on. -/
def printing (hub : Hub) : Hub :=
  { fresh with channel := hub.channel }

end Hub

namespace Host

/-- The side of a host that signals meet. -/
def gated (host : Host) : Host :=
  { host with
      shared := host.shared.gated
      own := host.own.gated
      ports := Ports.fresh }

/-- The side of a host that texts are printed on.  What the screen holds back
makes no difference to who prints. -/
def printing (host : Host) : Host :=
  { fresh false "" with
      shared := host.shared.printing
      own := host.own.printing
      ports := host.ports.filed }

/-! ## What signals do -/

section Gated

variable (host : Host) (scope : Scope) (category : String)

theorem hub_gated : host.gated.hub scope = (host.hub scope).gated := by
  cases scope <;> rfl

theorem gate_gated :
    host.gated.gate scope category = host.gate scope category ∧
      host.gated.wants scope category = host.wants scope category := by
  cases scope <;> exact ⟨rfl, rfl⟩

theorem receive_gated (sink : Sink) (signal : Signal) :
    (host.gated.receive scope sink signal).2 =
        (host.receive scope sink signal).2 ∧
      (host.gated.receive scope sink signal).1.gated =
        (host.receive scope sink signal).1.gated := by
  cases sink with
  | buffering waker waiting =>
      cases scope <;> cases waker <;> exact ⟨rfl, rfl⟩
  | _ => exact ⟨rfl, rfl⟩

theorem emit_gated
    (idle : host.script = []) (origin : Origin) (message : Message) :
    (host.gated.emit scope category origin message).2 =
        (host.emit scope category origin message).2 ∧
      (host.gated.emit scope category origin message).1.gated =
        (host.emit scope category origin message).1.gated := by
  have idleThere : host.gated.script = [] := idle
  obtain ⟨gate, _⟩ := host.gate_gated scope category
  cases opened : host.gate scope category with
  | mk passed asked =>
      have openedThere := gate.trans opened
      cases passed with
      | none =>
          rw [emit_of_closed opened, emit_of_closed openedThere]
          exact ⟨rfl, rfl⟩
      | some sink =>
          obtain ⟨taken, received⟩ :=
            host.receive_gated scope sink (message.signal category origin)
          rw [emit_of_idle idle opened, emit_of_idle idleThere openedThere,
            taken]
          exact ⟨rfl, received⟩

theorem script_pollBuffer :
    (host.pollBuffer scope).1.script = host.script := by
  rw [pollBuffer]
  split
  · exact host.script_setSink scope _
  · rfl

theorem pollBuffer_gated :
    (host.gated.pollBuffer scope).2 = (host.pollBuffer scope).2 ∧
      (host.gated.pollBuffer scope).1.gated =
        (host.pollBuffer scope).1.gated := by
  rw [pollBuffer, pollBuffer]
  have sink : (host.gated.hub scope).sink = (host.hub scope).sink := by
    rw [hub_gated]
    rfl
  rw [sink]
  cases (host.hub scope).sink with
  | none => exact ⟨rfl, rfl⟩
  | some sink =>
      cases sink with
      | buffering waker waiting => cases scope <;> exact ⟨rfl, rfl⟩
      | _ => exact ⟨rfl, rfl⟩

/-- Whatever is done on a channel leaves alone what signals meet. -/
theorem gated_setChannel (channel : Channel) (ports : Ports) :
    Host.gated { host.setChannel scope channel with ports } = host.gated := by
  cases scope <;> rfl

theorem gated_printReading (message : Message) :
    (host.printReading scope message).1.gated = host.gated := by
  simp only [printReading]
  split
  · exact host.gated_setChannel scope _ _
  · rfl

theorem gated_foreign_print (message : Foreign.ForeignString) :
    (Foreign.print host message).1.gated = host.gated := by
  have printed :=
    host.gated_printReading .shared (Message.text (incoming message))
  rw [Foreign.print]
  split <;> rename_i answered <;> rw [answered] at printed <;> exact printed

theorem gated_foreign_setStream (stream : Option (String × HostFile)) :
    (Foreign.setStream host stream).1.gated = host.gated := by
  cases stream with
  | none => exact host.gated_setChannel .shared _ _
  | some opened => exact gated_setChannel _ .shared _ _

end Gated

section Printing

variable (host : Host) (scope : Scope) (category : String)

theorem hub_printing :
    host.printing.hub scope = (host.hub scope).printing := by
  cases scope <;> rfl

theorem printing_setSink (sink : Option Sink) :
    (host.setSink scope sink).printing = host.printing := by
  cases scope <;> rfl

theorem printing_receive (sink : Sink) (signal : Signal) :
    (host.receive scope sink signal).1.printing = host.printing := by
  cases sink with
  | buffering waker waiting => exact host.printing_setSink scope _
  | _ => rfl

theorem printing_emit
    (idle : host.script = []) (origin : Origin) (message : Message) :
    (host.emit scope category origin message).1.printing =
      host.printing := by
  cases opened : host.gate scope category with
  | mk passed asked =>
      cases passed with
      | none => rw [emit_of_closed opened]
      | some sink =>
          rw [emit_of_idle idle opened]
          exact host.printing_receive scope sink _

theorem printing_pollBuffer :
    (host.pollBuffer scope).1.printing = host.printing := by
  rw [pollBuffer]
  split
  · exact host.printing_setSink scope _
  · rfl

end Printing

end Host

namespace Output

namespace Channel

variable (channel : Channel) (ports : Ports)

theorem filed_setFile (name : String) (file : HostFile) :
    (ports.filed.setFile name file).filed = (ports.setFile name file).filed := by
  rw [Ports.setFile, Ports.setFile, apply_ite Ports.filed,
    apply_ite Ports.filed]
  rfl

/-- What the screen holds back makes no difference to what is printed. -/
theorem print_filed (data : Bytes) :
    (channel.print ports.filed data).1 = (channel.print ports data).1 ∧
      (channel.print ports.filed data).2.1.filed =
        (channel.print ports data).2.1.filed ∧
      (channel.print ports.filed data).2.2 =
        (channel.print ports data).2.2 := by
  rw [print, print]
  cases channel.current with
  | file name => exact ⟨rfl, filed_setFile ports name _, rfl⟩
  | _ => exact ⟨rfl, rfl, rfl⟩

theorem flush_filed :
    (channel.flush ports.filed).1 = (channel.flush ports).1 ∧
      (channel.flush ports.filed).2.1.filed =
        (channel.flush ports).2.1.filed ∧
      (channel.flush ports.filed).2.2 = (channel.flush ports).2.2 := by
  rw [flush, flush]
  cases channel.current with
  | file name => exact ⟨rfl, filed_setFile ports name _, rfl⟩
  | _ => exact ⟨rfl, rfl, rfl⟩

theorem replace_filed (target : Option Target) :
    (channel.replace ports.filed target).1 =
        (channel.replace ports target).1 ∧
      (channel.replace ports.filed target).2.1.filed =
        (channel.replace ports target).2.1.filed ∧
      (channel.replace ports.filed target).2.2 =
        (channel.replace ports target).2.2 := by
  obtain ⟨flushed, files, rest⟩ := channel.flush_filed ports
  refine ⟨rfl, files, ?_⟩
  rw [replace_eq, replace_eq, flushed, rest]

end Channel

end Output

namespace Host

section Printing

variable (host : Host) (scope : Scope)

/-- What was done on a channel is done alike on the printing side. -/
theorem printing_setChannel_congr
    {channel after : Channel} {ports left : Ports}
    (same : channel = after) (files : ports.filed = left.filed) :
    Host.printing { host.printing.setChannel scope channel with ports } =
      Host.printing { host.setChannel scope after with ports := left } := by
  subst same
  simp only [printing, files]
  cases scope <;> rfl

theorem printBytes_printing (data : Bytes) :
    (host.printing.printBytes scope data).2 =
        (host.printBytes scope data).2 ∧
      (host.printing.printBytes scope data).1.printing =
        (host.printBytes scope data).1.printing := by
  obtain ⟨channel, files, rest⟩ :=
    (host.hub scope).channel.print_filed host.ports data
  simp only [printBytes, hub_printing]
  refine ⟨?_, host.printing_setChannel_congr scope channel files⟩
  exact congrArg (fun result => (Trace.holding _ result.1, result.2)) rest

theorem flushOutput_printing :
    (host.printing.flushOutput scope).2 = (host.flushOutput scope).2 ∧
      (host.printing.flushOutput scope).1.printing =
        (host.flushOutput scope).1.printing := by
  obtain ⟨channel, files, rest⟩ :=
    (host.hub scope).channel.flush_filed host.ports
  simp only [flushOutput, hub_printing]
  refine ⟨?_, host.printing_setChannel_congr scope channel files⟩
  exact congrArg (fun result => (Trace.holding _ result.1, result.2)) rest

theorem setOutput_printing (target : Option Target) :
    (host.printing.setOutput scope target).2 =
        (host.setOutput scope target).2 ∧
      (host.printing.setOutput scope target).1.printing =
        (host.setOutput scope target).1.printing := by
  obtain ⟨channel, files, rest⟩ :=
    (host.hub scope).channel.replace_filed host.ports target
  simp only [setOutput, replaceOutput, hub_printing]
  refine ⟨?_, host.printing_setChannel_congr scope channel files⟩
  exact
    congrArg (fun trace => Trace.writing scope (Trace.holding _ trace)) rest

theorem printReading_printing (message : Message) :
    (host.printing.printReading scope message).2 =
        (host.printReading scope message).2 ∧
      (host.printing.printReading scope message).1.printing =
        (host.printReading scope message).1.printing := by
  obtain ⟨rest, after⟩ :=
    host.printBytes_printing scope (bytes message.program.collect.buffer)
  simp only [printReading]
  split
  · refine ⟨?_, after⟩
    exact
      congrArg
        (fun result : Trace × Except Fault Nat =>
          ([.formatted message.program.collect.taken message.announced] ++
              result.1,
            result.2.mapError CallFault.output)) rest
  · exact ⟨rfl, rfl⟩

theorem foreign_print_printing (message : Foreign.ForeignString) :
    (Foreign.print host.printing message).2 =
        (Foreign.print host message).2 ∧
      (Foreign.print host.printing message).1.printing =
        (Foreign.print host message).1.printing := by
  obtain ⟨rest, after⟩ :=
    host.printReading_printing .shared (Message.text (incoming message))
  rw [Foreign.print, Foreign.print]
  cases here : host.printReading .shared (Message.text (incoming message)) with
  | mk left told =>
      cases there :
          host.printing.printReading .shared
            (Message.text (incoming message)) with
      | mk other toldThere =>
          rw [here, there] at rest after
          cases rest
          obtain ⟨trace, result⟩ := told
          cases result <;> exact ⟨rfl, after⟩

theorem foreign_setStream_printing (stream : Option (String × HostFile)) :
    (Foreign.setStream host.printing stream).2 =
        (Foreign.setStream host stream).2 ∧
      (Foreign.setStream host.printing stream).1.printing =
        (Foreign.setStream host stream).1.printing := by
  cases stream with
  | none => exact host.setOutput_printing .shared none
  | some opened =>
      obtain ⟨name, file⟩ := opened
      let target := some (Target.file name)
      have same : ∀ ports left : Ports, ports.filed = left.filed →
          ({ host.printing with ports }.setOutput .shared target).2 =
              ({ host with ports := left }.setOutput .shared target).2 ∧
            ({ host.printing with ports }.setOutput .shared target).1.printing =
              ({ host with ports := left }.setOutput .shared
                target).1.printing := by
        intro ports left files
        have sides :
            Host.printing { host.printing with ports } =
              Host.printing { host with ports := left } := by
          simp only [printing, files]
          rfl
        obtain ⟨rest, after⟩ :=
          setOutput_printing { host.printing with ports } .shared target
        obtain ⟨restThere, afterThere⟩ :=
          setOutput_printing { host with ports := left } .shared target
        rw [sides] at rest after
        exact ⟨rest.symm.trans restThere, after.symm.trans afterThere⟩
      rw [Foreign.setStream, Foreign.setStream]
      apply same
      have known : host.printing.ports.file? name = host.ports.file? name := rfl
      rw [known]
      cases host.ports.file? name with
      | some known => rfl
      | none => exact Channel.filed_setFile host.ports name file

end Printing

end Host

/-! ## What is not to be seen -/

/-- What can happen during a step about output. -/
def Trace.isPrinting : Event → Bool
  | .formatted _ _ | .transfer _ | .shown _ | .record _ | .lock _ => true
  | _ => false

theorem Trace.deliveries_of_printing
    {trace : Trace} (prints : trace.all isPrinting) : trace.deliveries = [] := by
  apply filterMap_of_kind _ prints
  intro event isPrinting
  cases event <;> first | rfl | cases isPrinting

theorem Trace.printing_of_output
    {trace : Trace} (output : trace.all isOutput) : trace.all isPrinting := by
  rw [List.all_eq_true] at output ⊢
  intro event member
  have outputs := output event member
  cases event <;> first | rfl | cases outputs

namespace Host

variable (host : Host) (scope : Scope)

theorem isPrinting_printBytes (data : Bytes) :
    (host.printBytes scope data).2.1.all Trace.isPrinting :=
  Trace.all_holding (fun _ => rfl) (.channel scope)
    (Trace.printing_of_output
      ((host.hub scope).channel.output_print host.ports data))

theorem isPrinting_printReading (message : Message) :
    (host.printReading scope message).2.1.all Trace.isPrinting := by
  simp only [printReading]
  split
  · exact host.isPrinting_printBytes scope _
  · rfl

theorem isPrinting_flushOutput :
    (host.flushOutput scope).2.1.all Trace.isPrinting :=
  Trace.all_holding (fun _ => rfl) (.channel scope)
    (Trace.printing_of_output
      ((host.hub scope).channel.output_flush host.ports))

theorem isPrinting_setOutput (target : Option Target) :
    (host.setOutput scope target).2.all Trace.isPrinting := by
  have replaced :
      ((host.hub scope).channel.replace host.ports target).2.2.all
        Trace.isPrinting := by
    have flushed :=
      Trace.printing_of_output
        ((host.hub scope).channel.output_flush host.ports)
    have dismissed :=
      Trace.printing_of_output
        ((host.hub scope).channel.flush host.ports).1.output_dismiss
    have noted : ∀ fault, (Channel.noted fault).all Trace.isPrinting := by
      intro fault
      cases fault <;> rfl
    rw [Channel.replace_eq, List.all_append, List.all_append, flushed, noted,
      dismissed]
    rfl
  exact
    Trace.all_writing (fun _ => rfl) scope
      (Trace.all_holding (fun _ => rfl) (.channel scope) replaced)

theorem isPrinting_foreign_print (message : Foreign.ForeignString) :
    (Foreign.print host message).2.1.all Trace.isPrinting := by
  have printed :=
    host.isPrinting_printReading .shared (Message.text (incoming message))
  rw [Foreign.print]
  split <;> rename_i answered <;> rw [answered] at printed
  · exact Trace.all_reading (fun _ => rfl) .shared printed
  · refine Trace.all_reading (fun _ => rfl) .shared ?_
    rw [List.all_append, printed]
    rfl

theorem conveyance_emit
    (idle : host.script = []) (category : String) (origin : Origin)
    (message : Message) :
    (host.emit scope category origin message).2.all Trace.isConveyance := by
  have asks :=
    Trace.conveyance_of_asking (host.asking_gate scope category).1
  cases opened : host.gate scope category with
  | mk passed asked =>
      rw [opened] at asks
      cases passed with
      | none =>
          rw [emit_of_closed opened]
          exact Trace.all_reading (fun _ => rfl) scope asks
      | some sink =>
          rw [emit_of_idle idle opened]
          apply Trace.all_reading (fun _ => rfl)
          rw [List.all_append, List.all_append, asks,
            host.conveyance_receive scope sink]
          rfl

end Host

end SignalHub
