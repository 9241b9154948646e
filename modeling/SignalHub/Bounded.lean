import SignalHub.Formatter
import SignalHub.Text.Boundary

/-!
# Bounded formatting

A buffer for at most `size - 1` bytes, the last one being kept for a
terminator.  A piece that does not fit is cut at a character boundary, and
from then on the buffer refuses everything, even an empty piece.
-/

namespace SignalHub

open Text

/-- The size of the buffer for a message, terminator included. -/
def messageSize : Nat := 250

structure BoundedBuffer where
  capacity : Nat
  content : Bytes
  full : Bool
deriving DecidableEq, Repr

namespace BoundedBuffer

/-- The empty buffer of a size, terminator included. -/
def ofSize (size : Nat) : BoundedBuffer :=
  ⟨size - 1, [], false⟩

/-- The bytes that are still free. -/
def room (buffer : BoundedBuffer) : Nat :=
  buffer.capacity - buffer.content.length

/-- Takes a piece whole, or cuts it, becomes full and refuses. -/
def write (buffer : BoundedBuffer) (piece : String) : BoundedBuffer × Bool :=
  let offered := bytes piece
  if buffer.full then (buffer, false)
  else if offered.length ≤ buffer.room then
    ({ buffer with content := buffer.content ++ offered }, true)
  else
    let cut := floorBoundary offered buffer.room
    ({ buffer with content := buffer.content ++ offered.take cut
                   full := true }, false)

/-- The text that the buffer holds. -/
def text (buffer : BoundedBuffer) : String :=
  decode buffer.content

end BoundedBuffer

/-- Runs a formatting program against an empty buffer of a size. -/
def Formatter.runBounded (program : Formatter) (size : Nat) :
    Formatted BoundedBuffer :=
  program.run BoundedBuffer.write (BoundedBuffer.ofSize size)

/-- The most bytes that one buffer can be asked to hold. -/
def BoundedBuffer.largestCapacity : Nat := Nat.pow 2 63 - 1

/-- Runs a formatting program against an empty buffer of a size, if there can be
such a buffer. -/
def Formatter.runBounded? (program : Formatter) (size : Nat) :
    Option (Formatted BoundedBuffer) :=
  if (BoundedBuffer.ofSize size).capacity ≤ BoundedBuffer.largestCapacity then
    some (program.runBounded size)
  else none

/-- The text of a formatting program, bounded by a buffer's size. -/
def Formatter.bounded (program : Formatter) (size : Nat) : String :=
  (program.runBounded size).buffer.text

end SignalHub
