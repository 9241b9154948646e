/-!
# Bytes and text

Text leaves the program as UTF-8 and enters it as arbitrary bytes.  `encode`
writes characters, `decode` reads bytes and never fails: every maximal part
that no character can begin with becomes one replacement character.  The
reader is a machine with one pending sequence at most, fed byte by byte.
-/

namespace SignalHub.Text

abbrev Bytes := List UInt8

/-- The UTF-8 form of a list of characters. -/
def encode (characters : List Char) : Bytes :=
  characters.flatMap String.utf8EncodeChar

/-- The UTF-8 form of a text. -/
def bytes (text : String) : Bytes :=
  encode text.toList

@[simp]
theorem encode_nil : encode [] = [] := rfl

@[simp]
theorem encode_cons (character : Char) (rest : List Char) :
    encode (character :: rest) =
      String.utf8EncodeChar character ++ encode rest := rfl

@[simp]
theorem encode_append (left right : List Char) :
    encode (left ++ right) = encode left ++ encode right := by
  simp [encode]

/-- Stands for bytes that are no character. -/
def replacement : Char := '\uFFFD'

/-- An unfinished sequence: how many bytes it still needs, the range of the
next one, and the bits read so far. -/
structure Pending where
  missing : Nat
  low : UInt8
  high : UInt8
  value : Nat
deriving DecidableEq, Repr

/-- What a byte means where a character begins: a character, the start of a
longer sequence, or nothing. -/
def leading (byte : UInt8) : List Char × Option Pending :=
  if byte < 0x80 then ([Char.ofNat byte.toNat], none)
  else if byte < 0xC2 then ([replacement], none)
  else if byte < 0xE0 then ([], some ⟨1, 0x80, 0xBF, byte.toNat - 0xC0⟩)
  else if byte = 0xE0 then ([], some ⟨2, 0xA0, 0xBF, 0⟩)
  else if byte = 0xED then ([], some ⟨2, 0x80, 0x9F, 0xD⟩)
  else if byte < 0xF0 then ([], some ⟨2, 0x80, 0xBF, byte.toNat - 0xE0⟩)
  else if byte = 0xF0 then ([], some ⟨3, 0x90, 0xBF, 0⟩)
  else if byte < 0xF4 then ([], some ⟨3, 0x80, 0xBF, byte.toNat - 0xF0⟩)
  else if byte = 0xF4 then ([], some ⟨3, 0x80, 0x8F, 4⟩)
  else ([replacement], none)

/-- One byte: it continues the pending sequence, or ends it as a replacement
and is read afresh. -/
def advance : Option Pending → UInt8 → List Char × Option Pending
  | none, byte => leading byte
  | some pending, byte =>
      if pending.low ≤ byte ∧ byte ≤ pending.high then
        let value := pending.value * 64 + (byte.toNat - 0x80)
        if pending.missing ≤ 1 then ([Char.ofNat value], none)
        else ([], some ⟨pending.missing - 1, 0x80, 0xBF, value⟩)
      else
        let (characters, next) := leading byte
        (replacement :: characters, next)

/-- Reads on from a state; an unfinished sequence at the end is replaced. -/
def decodeFrom : Option Pending → Bytes → List Char
  | none, [] => []
  | some _, [] => [replacement]
  | state, byte :: rest =>
      let (characters, next) := advance state byte
      characters ++ decodeFrom next rest

/-- The characters that bytes stand for, replacements included. -/
def decodeChars (input : Bytes) : List Char :=
  decodeFrom none input

/-- The text that bytes stand for, replacements included. -/
def decode (input : Bytes) : String :=
  String.ofList (decodeChars input)

/-- Whether bytes are exactly the UTF-8 form of some text. -/
def isText (input : Bytes) : Bool :=
  encode (decodeChars input) == input

/-- The text of bytes that are text. -/
def decode? (input : Bytes) : Option String :=
  if isText input then some (decode input) else none

end SignalHub.Text
