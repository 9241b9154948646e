import SignalHub.Output.Device

/-!
# Transfers

What passes between a named stream and its device, and writing a text to the
end over a device that takes it piecemeal.
-/

namespace SignalHub.Output

open Text

inductive Transfer where
  | wrote (stream : String) (data : Bytes)
  | refused (stream : String) (kind : FaultKind)
  | flushed (stream : String)
  | closed (stream : String)
deriving DecidableEq, Repr

/-- How writing to the end went: what is left, and the fault that left it. -/
structure Poured where
  device : Device
  transfers : List Transfer
  rest : Bytes
  fault : Option Fault
deriving DecidableEq, Repr

/-- Writes to the end.  Interruptions are tried again at once; an attempt that
takes nothing is the fault `stuck`. -/
def pour (stream : String) (stuck : Fault) (device : Device)
    (offered : Bytes) : Poured :=
  if offered.isEmpty then ⟨device, [], [], none⟩
  else
    match attempted : device.attempt offered with
    | (after, .interrupted) =>
        let poured := pour stream stuck after offered
        { poured with
            transfers := .refused stream .interrupted :: poured.transfers }
    | (after, .refused fault) =>
        ⟨after, [.refused stream fault.kind], offered, some fault⟩
    | (after, .took 0) => ⟨after, [.wrote stream []], offered, some stuck⟩
    | (after, .took (count + 1)) =>
        let poured := pour stream stuck after (offered.drop (count + 1))
        { poured with
            transfers :=
              .wrote stream (offered.take (count + 1)) :: poured.transfers }
termination_by device.script.length + offered.length
decreasing_by
  · have shorter := congrArg List.length (device.attempt_script offered)
    have scripted :=
      @Device.script_ne_nil_of_interrupted device offered (by rw [attempted])
    have positive := List.length_pos_iff.mpr scripted
    simp only [attempted, List.length_tail] at shorter
    omega
  · have shorter := congrArg List.length (device.attempt_script offered)
    have nonempty : offered ≠ [] := by
      simpa using ‹¬offered.isEmpty = true›
    have positive := List.length_pos_iff.mpr nonempty
    simp only [attempted, List.length_tail] at shorter
    simp only [List.length_drop]
    omega

end SignalHub.Output
