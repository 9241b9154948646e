import SignalHub.Output.Transfer

/-!
# Streams

A named device, bare or behind a buffer of some capacity.  The bytes that the
device took followed by the bytes that are held back are what was printed.
-/

namespace SignalHub.Output

open Text

structure Stream where
  name : String
  device : Device
  capacity : Option Nat
  held : Bytes
deriving DecidableEq, Repr

namespace Stream

/-- A bare stream. -/
def bare (name : String) (device : Device) : Stream :=
  ⟨name, device, none, []⟩

/-- A stream behind an empty buffer. -/
def buffered (name : String) (device : Device) (capacity : Nat) : Stream :=
  ⟨name, device, some capacity, []⟩

/-- All bytes of the stream: those its device took, then those it holds. -/
def content (stream : Stream) : Bytes :=
  stream.device.content ++ stream.held

/-- Writes the held bytes out.  What could not be written stays held. -/
def writeOut (stream : Stream) : Stream × List Transfer × Option Fault :=
  let poured := pour stream.name .heldUnwritten stream.device stream.held
  ({ stream with device := poured.device, held := poured.rest },
    poured.transfers, poured.fault)

/-- Writes past the buffer.  What could not be written is lost. -/
def writeThrough (stream : Stream) (data : Bytes) :
    Stream × List Transfer × Option Fault :=
  let poured := pour stream.name .textUnwritten stream.device data
  ({ stream with device := poured.device }, poured.transfers, poured.fault)

/-- Keeps data in the buffer. -/
def keep (stream : Stream) (data : Bytes) : Stream :=
  { stream with held := stream.held ++ data }

/-- Data of at least the capacity goes past the buffer, shorter data into
it. -/
def place (stream : Stream) (capacity : Nat) (data : Bytes) :
    Stream × List Transfer × Option Fault :=
  if capacity ≤ data.length then stream.writeThrough data
  else (stream.keep data, [], none)

/-- Prints data.  Data shorter than the free room is kept; data longer than
it has the held bytes written out first. -/
def print (stream : Stream) (data : Bytes) :
    Stream × List Transfer × Option Fault :=
  match stream.capacity with
  | none => stream.writeThrough data
  | some capacity =>
      let room := capacity - stream.held.length
      if data.length < room then (stream.keep data, [], none)
      else if data.length ≤ room then stream.place capacity data
      else
        match stream.writeOut with
        | (after, transfers, some fault) => (after, transfers, some fault)
        | (after, transfers, none) =>
            let (last, more, fault) := after.place capacity data
            (last, transfers ++ more, fault)

/-- Writes the held bytes out and then, if that succeeded, flushes the
device. -/
def flush (stream : Stream) : Stream × List Transfer × Option Fault :=
  match stream.writeOut with
  | (after, transfers, some fault) => (after, transfers, some fault)
  | (after, transfers, none) =>
      let (device, fault) := after.device.flush
      ({ after with device }, transfers ++ [.flushed stream.name], fault)

/-- The end of a stream: one more attempt to write out what is held, whose
failure nobody sees, and then the device is closed. -/
def close (stream : Stream) : Stream × List Transfer :=
  let (after, transfers, _) := stream.writeOut
  (after, transfers ++ [.closed stream.name])

end Stream

end SignalHub.Output
