import SignalHub.Output.Device

/-!
# Files of the host

A file that the host opened brings a buffer of its own.  New bytes fill the
buffer; once it overflows, all held bytes are written, then whole blocks of
the new ones directly, and the rest is held.  Held bytes whose writing fails
are lost.  A file that was never written to has no room yet, so that its first
whole blocks go out directly.
-/

namespace SignalHub.Output

open Text

structure HostFile where
  device : Device
  capacity : Option Nat
  writable : Bool
  started : Bool
  held : Bytes
deriving DecidableEq, Repr

namespace HostFile

/-- The size of a file's buffer. -/
def bufferSize : Nat := 4096

/-- A file just opened on a device. -/
def onto (device : Device) (capacity : Option Nat) (writable : Bool) :
    HostFile :=
  ⟨device, capacity, writable, false, []⟩

/-- The bytes that fit in without writing anything. -/
def room (file : HostFile) : Nat :=
  if file.started then file.capacity.getD 0 - file.held.length else 0

/-- The largest number of whole blocks in a number of bytes. -/
def wholeBlocks (capacity : Option Nat) (count : Nat) : Nat :=
  match capacity with
  | some size => count - count % size
  | none => count

/-- One call to write: how many bytes were accepted, and the fault if some
were not. -/
def put (file : HostFile) (data : Bytes) : HostFile × Nat × Option Fault :=
  let head := data.take file.room
  let rest := data.drop file.room
  if rest.isEmpty then
    ({ file with held := file.held ++ head }, data.length, none)
  else if !file.writable then
    (file, head.length, some (.system Fault.badDescriptor))
  else
    let pending := file.held ++ head
    let (device, written, fault) := file.device.drain pending
    let emptied := { file with device, started := true, held := [] }
    if written < pending.length then (emptied, head.length, fault)
    else
      let direct := wholeBlocks file.capacity rest.length
      let (device, written, fault) := device.drain (rest.take direct)
      if written < direct then
        ({ emptied with device }, head.length + written, fault)
      else
        ({ emptied with device, held := rest.drop direct }, data.length, none)

/-- Prints to the end, calling again with the rest.  A call that accepts
nothing fails, unless the script interrupted it. -/
def print (file : HostFile) (data : Bytes) : HostFile × Option Fault :=
  if data.isEmpty then (file, none)
  else
    match file.put data with
    | (after, 0, fault) =>
        let cause := fault.getD (.system 0)
        if cause.kind = .interrupted ∧
            after.device.script.length < file.device.script.length then
          print after data
        else (after, some cause)
    | (after, count + 1, _) => print after (data.drop (count + 1))
termination_by (data.length, file.device.script.length)
decreasing_by
  · right
    exact (‹_ ∧ _›).2
  · left
    have nonempty : data ≠ [] := by
      simpa using ‹¬data.isEmpty = true›
    have positive := List.length_pos_iff.mpr nonempty
    simp only [List.length_drop]
    omega

/-- Writes the held bytes; they are gone whether that succeeds or not. -/
def flush (file : HostFile) : HostFile × Option Fault :=
  if file.held.isEmpty then (file, none)
  else
    let (device, written, fault) := file.device.drain file.held
    ({ file with device, held := [] },
      if written < file.held.length then some (fault.getD (.system 0))
      else none)

end HostFile

end SignalHub.Output
