import SignalHub.Text.Utf8

/-!
# Terminated strings

Across the foreign boundary a string is its bytes up to the first zero byte,
and may be missing altogether.  Inwards it is decoded; outwards its zero
characters are left out, because they would end it.
-/

namespace SignalHub.Text

/-- The bytes before the terminator. -/
def untilTerminator (input : Bytes) : Bytes :=
  input.takeWhile (· != 0)

/-- The text of a foreign string; a missing one is empty. -/
def incoming : Option Bytes → String
  | none => ""
  | some input => decode (untilTerminator input)

/-- The text that a foreign receiver sees. -/
def outgoing (text : String) : String :=
  String.ofList (text.toList.filter (· != '\x00'))

/-- The greatest signed number of thirty-two bits. -/
def lineMaximum : Nat := 2147483647

/-- A line number from the foreign side, where it is signed. -/
def lineIn (line : Int) : Nat :=
  line.toNat

/-- A line number for the foreign side. -/
def lineOut (line : Nat) : Nat :=
  min line lineMaximum

end SignalHub.Text
