import SignalHub.Pattern.Reader
import SignalHub.Pattern.Tree
import SignalHub.Text.Alphabetic

/-!
# Openings of groups

What stands between an opening parenthesis and the pattern inside of it: flags,
a name, or nothing.
-/

namespace SignalHub.Pattern

open Text

/-- What an opening parenthesis begins: a group, or a change of flags from
here on. -/
inductive Opening where
  | group (grouping : Grouping)
  | flags (span : Span) (changes : FlagChanges)

/-- A name of a group with its span. -/
structure GroupName where
  span : Span
  name : List Char
deriving DecidableEq, Repr

def flag? : Char → Option Flag
  | 'i' => some .caseless
  | 'm' => some .manyLines
  | 's' => some .dotMatchesLineEnd
  | 'U' => some .lazy
  | 'u' => some .unicode
  | 'R' => some .anyLineEnd
  | 'x' => some .verbose
  | _ => none

/-- Flags that were read, the last one first, and the hyphen between those that
are set and those that are not. -/
structure FlagsRead where
  flags : List (Flag × Bool × Span)
  negation : Option Span
  /-- The hyphen, if nothing was read after it. -/
  dangling : Option Span

namespace FlagsRead

def nothing : FlagsRead := ⟨[], none, none⟩

/-- Flags and hyphen in the order in which they are written. -/
def changes (read : FlagsRead) : FlagChanges :=
  (read.flags.map fun entry => (entry.1, entry.2.1)).reverse

/-- One more flag or hyphen. -/
def push (read : FlagsRead) (character : Char) (span : Span) :
    Except Complaint FlagsRead :=
  if character = '-' then
    match read.negation with
    | some earlier => .error ⟨.flagNegationRepeated, span, some earlier⟩
    | none => .ok { read with negation := some span, dangling := some span }
  else
    match flag? character with
    | none => refuse .flagUnknown span
    | some flag =>
        match read.flags.find? (·.1 == flag) with
        | some earlier => .error ⟨.flagRepeated, span, some earlier.2.2⟩
        | none =>
            .ok { read with
              flags := (flag, read.negation.isNone, span) :: read.flags
              dangling := none }

end FlagsRead

/-- Reads flags up to a colon or a closing parenthesis. -/
def readFlags (fuel : Nat) (read : FlagsRead) (reader : Reader) :
    Except Complaint (FlagsRead × Reader) := do
  match fuel, reader.head? with
  | 0, _ | _, none => return (read, reader)
  | fuel + 1, some character =>
      if character = ':' || character = ')' then
        match read.dangling with
        | some span => refuse .flagDanglingNegation span
        | none => return (read, reader)
      else
        let more ← read.push character reader.headSpan
        let behind := reader.step
        if behind.isDone then refuse .flagUnfinished behind.here
        else readFlags fuel more behind

/-- Characters of a name: a letter or an underscore at its start, and numbers,
points and brackets too behind it. -/
def isNameCharacter (first : Bool) (character : Char) : Bool :=
  if first then character = '_' || isAlphabetic character
  else
    ['_', '.', '[', ']'].contains character || isAlphabetic character ||
      isNumeric character

/-- Reads a name up to a closing angle. -/
def readName (fuel : Nat) (name : List Char) (reader : Reader) :
    Except Complaint (List Char × Reader) :=
  match fuel, reader.head? with
  | 0, _ | _, none => refuse .nameUnfinished reader.here
  | fuel + 1, some character =>
      if character = '>' then .ok (name, reader)
      else if isNameCharacter name.isEmpty character then
        readName fuel (name ++ [character]) reader.step
      else refuse .nameCharacter reader.headSpan

/-- Reads the name of a group, which no other group may have. -/
def readGroupName (names : List GroupName) (reader : Reader) :
    Except Complaint (GroupName × Reader) := do
  let (name, closing) ← readName (reader.rest.length + 1) [] reader
  let span := closing.since reader.spot
  if name.isEmpty then refuse .nameEmpty (.point reader.spot)
  else
    match names.find? (·.name == name) with
    | some earlier => .error ⟨.nameRepeated, span, some earlier.span⟩
    | none => return (⟨span, name⟩, closing.step)

/-- What begins a look around. -/
def lookAround? (reader : Reader) : Option Reader :=
  ["?=", "?!", "?<=", "?<!"].findSome? reader.takes?

/-- Reads the opening of a group.  The reader is at its parenthesis; names are
those of the groups before it. -/
def readOpening (names : List GroupName) (reader : Reader) :
    Except Complaint (Opening × List GroupName × Reader) := do
  let start := reader.spot
  let parenthesis := reader.headSpan
  let inner := reader.stepPass
  match lookAround? inner with
  | some behind => refuse .lookAround (behind.since start)
  | none =>
      match ["?P<", "?<"].findSome? inner.takes?, inner.takes? "?" with
      | some naming, _ =>
          let (name, behind) ← readGroupName names naming
          return (.group ⟨true, []⟩, names ++ [name], behind)
      | none, some changing =>
          if changing.isDone then refuse .groupUnclosed parenthesis
          else
            let (read, closing) ←
              readFlags (changing.rest.length + 1) .nothing changing
            let behind := closing.step
            if closing.head? = some ')' then
              if read.flags.isEmpty && read.negation.isNone then
                refuse .nothingRepeated inner.here
              else
                return (.flags (behind.since start) read.changes, names,
                  behind)
            else return (.group ⟨false, read.changes⟩, names, behind)
      | none, none => return (.group ⟨true, []⟩, names, inner)

end SignalHub.Pattern
