import SignalHub.Output.Channel
import SignalHub.Proofs.Output.Stream
import SignalHub.Proofs.Trace

/-!
# The traffic of a channel

Only a stream has traffic: its own, while it is the target, and that of its end
when the target is replaced.
-/

namespace SignalHub

open Text Output

namespace Output

/-- Nothing waits after a line. -/
theorem Screen.print_line (screen : Screen) (text : String) :
    screen.print (bytes (text ++ "\n")) = ⟨[]⟩ := by
  have ending : bytes (text ++ "\n") = bytes text ++ [Screen.lineBreak] := by
    rw [bytes, String.toList_append, encode_append]
    rfl
  rw [Screen.print, ending, if_pos (by simp), Screen.lastLine,
    List.reverse_append]
  rfl

/-- The stream that a target is, if it is one. -/
def Target.stream? : Target → Option Stream
  | .stream printed => some printed
  | _ => none

namespace Channel

/-- The stream that a channel prints to, if it does. -/
def stream? (channel : Channel) : Option Stream :=
  channel.target.bind Target.stream?

theorem target_of_stream?
    {channel : Channel} {stream : Stream}
    (streaming : channel.stream? = some stream) :
    channel.target = some (.stream stream) := by
  obtain ⟨target, here, same⟩ := Option.bind_eq_some_iff.mp streaming
  cases target with
  | stream other =>
      cases same
      exact here
  | _ => cases same

theorem current_of_stream?
    {channel : Channel} {stream : Stream}
    (streaming : channel.stream? = some stream) :
    channel.current = .stream stream := by
  rw [current, target_of_stream? streaming]
  rfl

theorem current_of_none
    {channel : Channel} (elsewhere : channel.stream? = none) :
    channel.current = .screen ∨ ∃ name, channel.current = .file name := by
  rw [current]
  cases here : channel.target with
  | none => exact Or.inl rfl
  | some target =>
      rw [stream?, here] at elsewhere
      cases target with
      | screen => exact Or.inl rfl
      | file name => exact Or.inr ⟨name, rfl⟩
      | stream stream => cases elsewhere

/-- A print and a flush show nothing but what the target does. -/
theorem output_print
    (channel : Channel) (ports : Ports) (data : Bytes) :
    (channel.print ports data).2.2.1.all Trace.isOutput := by
  rw [print]
  cases channel.current with
  | stream stream =>
      simp only [List.all_map]
      exact List.all_eq_true.mpr fun _ _ => rfl
  | _ => rfl

theorem output_dismiss (channel : Channel) :
    channel.dismiss.all Trace.isOutput := by
  rw [dismiss]
  split
  · rw [List.all_map]
    exact List.all_eq_true.mpr fun _ _ => rfl
  · rfl

/-- A print neither flushes nor closes. -/
theorem writes_print (channel : Channel) (ports : Ports) (data : Bytes) :
    (channel.print ports data).2.2.1.transfers.all Transfer.writes := by
  rw [print]
  cases channel.current with
  | stream stream =>
      simp only [Trace.transfers_map]
      exact stream.print_writes data
  | _ => rfl

theorem output_flush (channel : Channel) (ports : Ports) :
    (channel.flush ports).2.2.1.all Trace.isOutput := by
  rw [flush]
  cases channel.current with
  | stream stream =>
      simp only [List.all_map]
      exact List.all_eq_true.mpr fun _ _ => rfl
  | _ => rfl

/-- The record that a failed flush leaves before a replacement. -/
def noted (fault : Option Fault) : Trace :=
  match fault with
  | some cause => [.record (flushRecord "vm_diagnostics::output" cause)]
  | none => []

@[simp]
theorem transfers_noted (fault : Option Fault) :
    Trace.transfers (noted fault) = [] := by
  cases fault <;> rfl

theorem replace_eq
    (channel : Channel) (ports : Ports) (target : Option Target) :
    channel.replace ports target =
      (⟨target⟩, (channel.flush ports).2.1,
        (channel.flush ports).2.2.1 ++ noted (channel.flush ports).2.2.2 ++
          (channel.flush ports).1.dismiss) := rfl

@[simp]
theorem records_flush (channel : Channel) (ports : Ports) :
    Trace.records (channel.flush ports).2.2.1 = [] := by
  apply Trace.filterMap_of_kind _ (channel.output_flush ports)
  intro event output
  cases event <;> first | rfl | cases output

@[simp]
theorem records_dismiss (channel : Channel) :
    Trace.records channel.dismiss = [] := by
  rw [dismiss]
  split
  · exact Trace.records_map _
  · rfl

/-- A replacement records nothing but that its flush failed. -/
theorem records_replace
    (channel : Channel) (ports : Ports) (target : Option Target) :
    Trace.records (channel.replace ports target).2.2 =
      Trace.records (noted (channel.flush ports).2.2.2) := by
  simp [replace_eq]

section Streaming

variable {channel : Channel} {stream after : Stream}
  {transfers : List Transfer} {fault : Option Fault}

theorem print_of_stream
    {data : Bytes} (streaming : channel.stream? = some stream)
    (printed : stream.print data = (after, transfers, fault))
    (ports : Ports) :
    channel.print ports data =
      (⟨some (.stream after)⟩, ports, transfers.map .transfer,
        outcome data fault) := by
  rw [print, current_of_stream? streaming]
  simp only [printed]

theorem flush_of_stream
    (streaming : channel.stream? = some stream)
    (flushed : stream.flush = (after, transfers, fault)) (ports : Ports) :
    channel.flush ports =
      (⟨some (.stream after)⟩, ports, transfers.map .transfer, fault) := by
  rw [flush, current_of_stream? streaming]
  simp only [flushed]

theorem replace_of_stream
    (streaming : channel.stream? = some stream)
    (flushed : stream.flush = (after, transfers, fault))
    (ports : Ports) (target : Option Target) :
    channel.replace ports target =
      (⟨target⟩, ports,
        transfers.map .transfer ++ noted fault ++
          after.close.2.map .transfer) := by
  rw [replace_eq, flush_of_stream streaming flushed]
  rfl

end Streaming

section Elsewhere

variable {channel : Channel}

theorem print_elsewhere
    (elsewhere : channel.stream? = none) (ports : Ports) (data : Bytes) :
    (channel.print ports data).1.stream? = none ∧
      Trace.transfers (channel.print ports data).2.2.1 = [] := by
  rw [print]
  rcases current_of_none elsewhere with screen | ⟨name, file⟩
  · rw [screen]
    exact ⟨rfl, rfl⟩
  · rw [file]
    exact ⟨rfl, rfl⟩

theorem flush_elsewhere
    (elsewhere : channel.stream? = none) (ports : Ports) :
    (channel.flush ports).1.stream? = none ∧
      Trace.transfers (channel.flush ports).2.2.1 = [] := by
  rw [flush]
  rcases current_of_none elsewhere with screen | ⟨name, file⟩
  · rw [screen]
    exact ⟨elsewhere, rfl⟩
  · rw [file]
    exact ⟨elsewhere, rfl⟩

theorem dismiss_elsewhere
    (elsewhere : channel.stream? = none) : channel.dismiss = [] := by
  rw [dismiss]
  cases here : channel.target with
  | none => rfl
  | some target =>
      rw [stream?, here] at elsewhere
      cases target with
      | stream stream => cases elsewhere
      | _ => rfl

theorem replace_elsewhere
    (elsewhere : channel.stream? = none) (ports : Ports)
    (target : Option Target) :
    (channel.replace ports target).1 = ⟨target⟩ ∧
      Trace.transfers (channel.replace ports target).2.2 = [] := by
  obtain ⟨still, silent⟩ := flush_elsewhere elsewhere ports
  rw [replace_eq]
  refine ⟨rfl, ?_⟩
  simp only [Trace.transfers_append, silent, transfers_noted,
    dismiss_elsewhere still]
  rfl

end Elsewhere

end Channel

end Output

end SignalHub
