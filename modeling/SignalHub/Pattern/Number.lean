import SignalHub.Pattern.Reader

/-!
# Numbers in patterns

Decimal counts and hexadecimal characters.
-/

namespace SignalHub.Pattern

open Text

/-- The value of a hexadecimal digit. -/
def hexValue? (character : Char) : Option Nat :=
  if '0' ≤ character && character ≤ '9' then
    some (character.toNat - '0'.toNat)
  else if 'a' ≤ character && character ≤ 'f' then
    some (character.toNat - 'a'.toNat + 10)
  else if 'A' ≤ character && character ≤ 'F' then
    some (character.toNat - 'A'.toNat + 10)
  else none

/-- The character with a number, if there is one. -/
def scalar? (value : Nat) : Option Char :=
  if h : value.isValidChar then some (Char.ofNatAux value h) else none

/-- The largest count. -/
def countLimit : Nat := Nat.pow 2 32 - 1

namespace Reader

/-- Passes over blanks in front of a number. -/
def passLeading : Nat → Reader → Reader
  | 0, reader => reader
  | fuel + 1, reader =>
      match reader.head? with
      | some character =>
          if isBlank character then passLeading fuel reader.step else reader
      | none => reader

/-- Passes over blanks behind a number. -/
def passTrailing : Nat → Reader → Reader
  | 0, reader => reader
  | fuel + 1, reader =>
      match reader.head? with
      | some character =>
          if isBlank character then passTrailing fuel reader.stepPass
          else reader
      | none => reader

/-- Reads digits after those that were read already. -/
def digits : Nat → List Nat → Reader → List Nat × Reader
  | 0, read, reader => (read, reader)
  | fuel + 1, read, reader =>
      match reader.head? with
      | some character =>
          if character.isDigit then
            digits fuel (read ++ [character.toNat - '0'.toNat])
              reader.stepPass
          else (read, reader)
      | none => (read, reader)

end Reader

/-- Reads a decimal number.  What is left to read does not depend on whether
the number can be used. -/
def readDecimal (reader : Reader) : Except Complaint Nat × Reader :=
  let leading := reader.passLeading reader.rest.length
  let (digits, behind) := leading.digits leading.rest.length []
  let span := behind.since leading.spot
  let value := digits.foldl (fun value digit => value * 10 + digit) 0
  (if digits.isEmpty then refuse .decimalEmpty span
    else if countLimit < value then refuse .decimalTooLarge span
    else .ok value,
    behind.passTrailing behind.rest.length)

/-- Reads some more hexadecimal digits, each behind the one before. -/
def readHexDigits : Nat → Nat → Reader → Except Complaint (Nat × Reader)
  | 0, value, reader => .ok (value, reader)
  | count + 1, value, reader =>
      match reader.head? with
      | none => refuse .escapeUnfinished reader.here
      | some character =>
          match hexValue? character with
          | none => refuse .hexadecimalDigit reader.headSpan
          | some digit =>
              readHexDigits count (value * 16 + digit) reader.stepPass

/-- Reads hexadecimal digits up to a closing brace. -/
def readHexBraced (fuel : Nat) (digits : List Nat) (reader : Reader) :
    Except Complaint (List Nat × Reader) :=
  match fuel, reader.head? with
  | 0, _ | _, none => .ok (digits, reader)
  | fuel + 1, some character =>
      if character = '\x7d' then .ok (digits, reader)
      else
        match hexValue? character with
        | none => refuse .hexadecimalDigit reader.headSpan
        | some digit =>
            readHexBraced fuel (digits ++ [digit]) reader.stepPass

end SignalHub.Pattern
