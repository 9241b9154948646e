import SignalHub.Text.Utf8

/-!
# Plain text

What remains of a text when the sequences for a terminal are taken out: escape
sequences, strings for the terminal and all control characters but blanks and
line ends.  The text is read byte by byte, as a terminal would do.
-/

namespace SignalHub.Text

/-- What a terminal is reading. -/
inductive Mode where
  | ground
  | escape
  | escapeIntermediate
  | controlEntry
  | controlParameter
  | controlIntermediate
  | controlIgnored
  | deviceEntry
  | deviceParameter
  | deviceIntermediate
  | devicePassed
  | deviceIgnored
  | command
  | string
deriving DecidableEq, Repr

namespace Mode

/-- Whether a byte is a control code that is obeyed within sequences. -/
def isControl (byte : UInt8) : Bool :=
  byte ≤ 0x17 || byte == 0x19 || (0x1C ≤ byte && byte ≤ 0x1F)

/-- Blanks and line ends. -/
def isLayout (byte : UInt8) : Bool :=
  [0x20, 0x09, 0x0A, 0x0C, 0x0D].contains byte

def inRange (low high byte : UInt8) : Bool :=
  low ≤ byte && byte ≤ high

/-- Whether a mode obeys control codes. -/
def obeys : Mode → Bool
  | ground | escape | escapeIntermediate | controlEntry | controlParameter
  | controlIntermediate | controlIgnored => true
  | _ => false

/-- Where a byte that is no control code leads, if it leads elsewhere. -/
def next? : Mode → UInt8 → Option Mode
  | ground, byte => if 0xC2 ≤ byte then some ground else none
  | escape, byte =>
      if inRange 0x20 0x2F byte then some escapeIntermediate
      else if byte == 0x50 then some deviceEntry
      else if [0x58, 0x5E, 0x5F].contains byte then some string
      else if byte == 0x5B then some controlEntry
      else if byte == 0x5D then some command
      else if inRange 0x30 0x7E byte then some ground
      else none
  | escapeIntermediate, byte =>
      if inRange 0x30 0x7E byte then some ground else none
  | controlEntry, byte =>
      if inRange 0x20 0x2F byte then some controlIntermediate
      else if inRange 0x30 0x3F byte then some controlParameter
      else if inRange 0x40 0x7E byte then some ground
      else none
  | controlParameter, byte =>
      if inRange 0x20 0x2F byte then some controlIntermediate
      else if inRange 0x3C 0x3F byte then some controlIgnored
      else if inRange 0x40 0x7E byte then some ground
      else none
  | controlIntermediate, byte =>
      if inRange 0x30 0x3F byte then some controlIgnored
      else if inRange 0x40 0x7E byte then some ground
      else none
  | controlIgnored, byte =>
      if inRange 0x40 0x7E byte then some ground else none
  | deviceEntry, byte =>
      if inRange 0x20 0x2F byte then some deviceIntermediate
      else if inRange 0x30 0x3F byte then some deviceParameter
      else if inRange 0x40 0x7E byte then some devicePassed
      else none
  | deviceParameter, byte =>
      if inRange 0x20 0x2F byte then some deviceIntermediate
      else if inRange 0x3C 0x3F byte then some deviceIgnored
      else if inRange 0x40 0x7E byte then some devicePassed
      else none
  | deviceIntermediate, byte =>
      if inRange 0x30 0x3F byte then some deviceIgnored
      else if inRange 0x40 0x7E byte then some devicePassed
      else none
  | devicePassed, byte | deviceIgnored, byte | string, byte =>
      if byte == 0x9C then some ground else none
  | command, byte => if byte == 0x07 then some ground else none

/-- Where a byte leads.  Cancelling and escaping work everywhere. -/
def after (mode : Mode) (byte : UInt8) : Mode :=
  if byte == 0x18 || byte == 0x1A then ground
  else if byte == 0x1B then escape
  else if isControl byte && mode.obeys then mode
  else (mode.next? byte).getD mode

/-- Whether a byte is part of the plain text.  Within sequences only layout
is. -/
def shows (mode : Mode) (byte : UInt8) : Bool :=
  if mode = ground then
    inRange 0x20 0x7E byte || 0xC2 ≤ byte || isLayout byte
  else mode.obeys && byte != 0x20 && isLayout byte

end Mode

/-- Whether a byte is shown: as part of the plain text, or because it follows
one that is and would be shown without any sequence before it. -/
def isShown (mode : Mode) (showing : Bool) (byte : UInt8) : Bool :=
  mode.shows byte ||
    (showing && (Mode.shows .ground byte || 0x80 ≤ byte))

/-- The plain part of bytes.  A sequence that was begun goes on after what is
shown of it, unless that holds a character beyond the first 128. -/
def plainFrom (mode : Mode) (showing : Bool) : Bytes → Bytes
  | [] => []
  | byte :: rest =>
      if isShown mode showing byte then
        byte :: plainFrom (if 0x80 ≤ byte then .ground else mode) true rest
      else plainFrom (mode.after byte) false rest

/-- A text without the sequences for a terminal. -/
def plain (text : String) : String :=
  decode (plainFrom .ground false (bytes text))

end SignalHub.Text
