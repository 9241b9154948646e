import SignalHub.Text.Utf8

/-!
# The screen

Standard output is line buffered: everything up to the last line break leaves
the process at once, the rest waits for a flush.  What waits when the process
dies is never seen.
-/

namespace SignalHub.Output

open Text

structure Screen where
  waiting : Bytes
deriving DecidableEq, Repr

namespace Screen

def capacity : Nat := 1024

def lineBreak : UInt8 := 10

/-- What waits after more bytes without a line break. -/
def await (waiting data : Bytes) : Bytes :=
  let room := capacity - waiting.length
  if data.length < room then waiting ++ data
  else if capacity ≤ data.length then []
  else if room < data.length then data
  else waiting ++ data

/-- The bytes after the last line break. -/
def lastLine (data : Bytes) : Bytes :=
  (data.reverse.takeWhile (· != lineBreak)).reverse

def print (screen : Screen) (data : Bytes) : Screen :=
  if data.contains lineBreak then ⟨await [] (lastLine data)⟩
  else ⟨await screen.waiting data⟩

def flush (_ : Screen) : Screen :=
  ⟨[]⟩

end Screen

end SignalHub.Output
