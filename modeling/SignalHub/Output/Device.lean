import SignalHub.Fault
import SignalHub.Text.Utf8

/-!
# Devices

Where bytes end up.  A device answers each attempt to write: it may take any
part of what is offered, be interrupted, or refuse.  The first attempts are
answered by a script, all later ones by standing limits, and the flushes in the
same way by a script of their own, so that every finite run of answers is the
run of some device.
-/

namespace SignalHub.Output

open Text

inductive Verdict where
  | interrupt
  | refuse (fault : Fault)
  | accept (limit : Nat)
deriving DecidableEq, Repr

/-- A device.  `burst` bounds one attempt, `room` all attempts to come; with
no room left it refuses.  Its first flushes end as `flushes` says, all later
ones as `flushFault` does. -/
structure Device where
  script : List Verdict
  burst : Option Nat
  room : Option Nat
  refusal : Fault
  flushFault : Option Fault
  content : Bytes
  flushes : List (Option Fault) := []
deriving DecidableEq, Repr

inductive Attempt where
  | interrupted
  | refused (fault : Fault)
  | took (count : Nat)
deriving DecidableEq, Repr

/-- The smaller of a number and a limit, if there is one. -/
def atMost (limit : Option Nat) (count : Nat) : Nat :=
  match limit with
  | some bound => min count bound
  | none => count

namespace Device

/-- Takes everything. -/
def boundless : Device :=
  ⟨[], none, none, .system Fault.noSpace, none, [], []⟩

/-- Has no room at all. -/
def full : Device :=
  { boundless with room := some 0 }

/-- The device with flushes of its own that never fail. -/
def unfailing (device : Device) : Device :=
  { device with flushes := [], flushFault := none }

/-- Takes as much as a limit of its own, the burst and the room allow. -/
def take (device : Device) (limit : Option Nat) (offered : Bytes) :
    Device × Attempt :=
  let count :=
    atMost limit (atMost device.burst (atMost device.room offered.length))
  ({ device with
      room := device.room.map (· - count)
      content := device.content ++ offered.take count },
    .took count)

/-- One attempt to write. -/
def attempt (device : Device) (offered : Bytes) : Device × Attempt :=
  match device.script with
  | .interrupt :: rest => ({ device with script := rest }, .interrupted)
  | .refuse fault :: rest =>
      ({ device with script := rest },
        if fault.kind = .interrupted then .interrupted else .refused fault)
  | .accept limit :: rest =>
      { device with script := rest }.take (some limit) offered
  | [] =>
      if device.room = some 0 then (device, .refused device.refusal)
      else device.take none offered

/-- One flush. -/
def flush (device : Device) : Device × Option Fault :=
  match device.flushes with
  | verdict :: rest => ({ device with flushes := rest }, verdict)
  | [] => (device, device.flushFault)

@[simp]
theorem content_unfailing (device : Device) :
    device.unfailing.content = device.content := rfl

/-- An attempt uses up the first entry of the script, if there is one. -/
theorem attempt_script (device : Device) (offered : Bytes) :
    (device.attempt offered).1.script = device.script.tail := by
  obtain ⟨script, burst, room, refusal, flushFault, content, flushes⟩ := device
  cases script with
  | nil =>
      simp only [attempt]
      split <;> rfl
  | cons verdict rest => cases verdict <;> rfl

/-- Only the script interrupts. -/
theorem script_ne_nil_of_interrupted {device : Device} {offered : Bytes}
    (interrupted : (device.attempt offered).2 = .interrupted) :
    device.script ≠ [] := by
  intro empty
  simp only [attempt, empty] at interrupted
  split at interrupted <;> simp [take] at interrupted

/-- Writes until everything is taken or the device refuses, and says how much
was taken.  An interruption counts as a refusal here. -/
def drain (device : Device) (offered : Bytes) : Device × Nat × Option Fault :=
  if offered.isEmpty then (device, 0, none)
  else
    match device.attempt offered with
    | (after, .interrupted) => (after, 0, some (.system Fault.interruptedCall))
    | (after, .refused fault) => (after, 0, some fault)
    | (after, .took 0) => (after, 0, none)
    | (after, .took (count + 1)) =>
        let (last, more, fault) := drain after (offered.drop (count + 1))
        (last, count + 1 + more, fault)
termination_by offered.length
decreasing_by
  simp_all only [List.isEmpty_iff, List.length_drop]
  have : offered.length ≠ 0 := by
    simpa using ‹¬offered = []›
  omega

end Device

end SignalHub.Output
