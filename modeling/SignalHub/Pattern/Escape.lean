import SignalHub.Pattern.Number
import SignalHub.Pattern.Tree

/-!
# Escapes

What follows a backslash: a character that would mean something else, a
character by its number, a class, a property, or an assertion.
-/

namespace SignalHub.Pattern

open Text

/-- The smallest parts of a pattern. -/
inductive Primitive where
  | letter (letter : Letter)
  | dot (span : Span)
  | assertion (span : Span) (assertion : Assertion)
  | kind (span : Span) (negated : Bool) (kind : Kind)
  | property (span : Span) (name : Option String)
deriving DecidableEq, Repr

namespace Primitive

def span : Primitive → Span
  | letter character => character.span
  | dot span | assertion span _ | kind span _ _ | property span _ => span

def tree : Primitive → Tree
  | letter character => .letter character
  | dot span => .dot span
  | assertion span held => .assertion span held
  | kind span negated chosen => .kind span negated chosen
  | property span name => .property span name

/-- A member of a class, if it can be one. -/
def member : Primitive → Except Complaint Members
  | letter character => .ok (.letter character)
  | kind span negated chosen => .ok (.kind span negated chosen)
  | property span name => .ok (.property span name)
  | dot span | assertion span _ => refuse .classEscape span

/-- An end of a range, if it can be one. -/
def rangeEnd : Primitive → Except Complaint Letter
  | letter character => .ok character
  | other => refuse .classRangeEnd other.span

end Primitive

/-- Characters with a meaning of their own. -/
def isMeta (character : Char) : Bool :=
  "\\.+*?()|[]\x7b\x7d^$#&-~".toList.contains character

/-- Characters that may follow a backslash and then mean themselves. -/
def isEscapable (character : Char) : Bool :=
  isMeta character ||
    (character.toNat < 0x80 && !character.isAlphanum &&
      character != '<' && character != '>')

/-- Characters that a letter behind a backslash stands for. -/
def special? : Char → Option Char
  | 'a' => some '\x07'
  | 'f' => some '\x0c'
  | 't' => some '\t'
  | 'n' => some '\n'
  | 'r' => some '\r'
  | 'v' => some '\x0b'
  | _ => none

/-- Assertions that a letter or an angle behind a backslash stands for. -/
def assertion? : Char → Option Assertion
  | 'A' => some .textStart
  | 'z' => some .textEnd
  | 'b' => some .boundary
  | 'B' => some .noBoundary
  | '<' => some .wordStart
  | '>' => some .wordEnd
  | _ => none

def kind? : Char → Option (Bool × Kind)
  | 'd' => some (false, .digit)
  | 's' => some (false, .blank)
  | 'w' => some (false, .word)
  | 'D' => some (true, .digit)
  | 'S' => some (true, .blank)
  | 'W' => some (true, .word)
  | _ => none

/-- A character by its number.  The reader is at the letter that says how many
digits there are; `start` is the place of the backslash. -/
def readHexadecimal (start : Spot) (count : Nat) (short : Bool)
    (reader : Reader) : Except Complaint (Primitive × Reader) := do
  let digits := reader.stepPass
  match digits.head? with
  | none => refuse .escapeUnfinished digits.here
  | some '\x7b' =>
      let inner := digits.step.spot
      let (read, closing) ←
        readHexBraced digits.rest.length [] digits.stepPass
      if closing.isDone then
        refuse .escapeUnfinished (closing.since digits.spot)
      else
        let behind := closing.stepPass
        if read.isEmpty then
          refuse .hexadecimalEmpty (behind.since digits.spot)
        else
          let value := read.foldl (fun value digit => value * 16 + digit) 0
          match scalar? value with
          | none => refuse .hexadecimalNoCharacter (closing.since inner)
          | some character =>
              return (.letter ⟨behind.since start, character, false⟩, behind)
  | some _ =>
      let (value, behind) ← readHexDigits count 0 digits
      match scalar? value with
      | none => refuse .hexadecimalNoCharacter (behind.since digits.spot)
      | some character =>
          return (.letter ⟨behind.since start, character, short⟩, behind)

/-- Reads the name of a property up to a closing brace. -/
def readPropertyName (fuel : Nat) (name : List Char) (reader : Reader) :
    List Char × Reader :=
  match fuel, reader.head? with
  | 0, _ | _, none => (name, reader)
  | fuel + 1, some character =>
      if character = '\x7d' then (name, reader)
      else readPropertyName fuel (name ++ [character]) reader.stepPass

/-- A name with a value has one of these in it. -/
def hasValue (name : List Char) : Bool :=
  name.contains ':' || name.contains '='

/-- A class by a property.  The reader is at the letter behind the
backslash. -/
def readProperty (start : Spot) (reader : Reader) : Except Complaint (Primitive × Reader) :=
  let opening := reader.stepPass
  match opening.head? with
  | none => refuse .escapeUnfinished opening.here
  | some '\x7b' =>
      let (name, closing) :=
        readPropertyName opening.rest.length [] opening.stepPass
      if closing.isDone then refuse .escapeUnfinished closing.here
      else
        let behind := closing.step
        let known := if hasValue name then none else some (String.ofList name)
        .ok (.property (behind.since start) known, behind)
  | some '\\' => refuse .propertyName opening.headSpan
  | some character =>
      let behind := opening.stepPass
      .ok (.property (behind.since start) (some character.toString), behind)

/-- Characters in the name of a boundary. -/
def isBoundaryCharacter (character : Char) : Bool :=
  character.isAlpha || character == '-'

/-- Reads the name of a boundary. -/
def readBoundaryName (fuel : Nat) (name : List Char) (reader : Reader) :
    List Char × Reader :=
  match fuel, reader.head? with
  | 0, _ | _, none => (name, reader)
  | fuel + 1, some character =>
      if isBoundaryCharacter character then
        readBoundaryName fuel (name ++ [character]) reader.stepPass
      else (name, reader)

def boundary? (name : List Char) : Option Assertion :=
  if name = "start".toList then some .wordStart
  else if name = "end".toList then some .wordEnd
  else if name = "start-half".toList then some .wordStartHalf
  else if name = "end-half".toList then some .wordEndHalf
  else none

/-- A boundary that may have a name in braces.  Braces that hold no name are
left to be read as a count. -/
def readBoundary (start : Spot) (reader : Reader) : Except Complaint (Primitive × Reader) :=
  let bare : Except Complaint (Primitive × Reader) :=
    .ok (.assertion (reader.since start) .boundary, reader)
  if reader.head? ≠ some '\x7b' then bare
  else
    let inner := reader.stepPass
    match inner.head? with
    | none => refuse .boundaryUnfinished (inner.since start)
    | some character =>
        if !isBoundaryCharacter character then bare
        else
          let (name, closing) := readBoundaryName inner.rest.length [] inner
          if closing.head? ≠ some '\x7d' then
            refuse .boundaryUnclosed (closing.since reader.spot)
          else
            match boundary? name with
            | none => refuse .boundaryUnknown (closing.since inner.spot)
            | some held =>
                let behind := closing.step
                .ok (.assertion (behind.since start) held, behind)

/-- Reads an escape.  The reader is at the backslash. -/
def readEscape (reader : Reader) : Except Complaint (Primitive × Reader) :=
  let start := reader.spot
  let reader := reader.step
  match reader.head? with
  | none => refuse .escapeUnfinished (reader.since start)
  | some character =>
      let behind := reader.step
      let span := behind.since start
      if character.isDigit then refuse .backreference span
      else if character = 'x' then readHexadecimal start 2 true reader
      else if character = 'u' then readHexadecimal start 4 false reader
      else if character = 'U' then readHexadecimal start 8 false reader
      else if character = 'p' || character = 'P' then
        readProperty start reader
      else if character = 'b' then readBoundary start behind
      else if isEscapable character then
        .ok (.letter ⟨span, character, false⟩, behind)
      else
        match kind? character, special? character, assertion? character with
        | some (negated, kind), _, _ => .ok (.kind span negated kind, behind)
        | _, some meant, _ => .ok (.letter ⟨span, meant, false⟩, behind)
        | _, _, some held => .ok (.assertion span held, behind)
        | none, none, none => refuse .escapeUnknown span

end SignalHub.Pattern
