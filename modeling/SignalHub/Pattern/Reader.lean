import SignalHub.Pattern.Complaint
import SignalHub.Text.Property

/-!
# Readers

A pattern is read character by character.  In the verbose form of patterns,
blanks and comments between the characters are passed over.
-/

namespace SignalHub.Pattern

open Text

/-- What is left to read, where it begins, and whether the form is verbose. -/
structure Reader where
  rest : List Char
  spot : Spot
  verbose : Bool
deriving DecidableEq, Repr

/-- Passes over blanks and comments.  A comment ends with its line. -/
def passBlanks (inComment : Bool) : List Char → Spot → List Char × Spot
  | [], spot => ([], spot)
  | character :: rest, spot =>
      if inComment then
        passBlanks (character != '\n') rest (spot.past character)
      else if isBlank character then
        passBlanks false rest (spot.past character)
      else if character = '#' then
        passBlanks true rest (spot.past character)
      else (character :: rest, spot)

namespace Reader

/-- Before the first character of a pattern. -/
def ofPattern (pattern : List Char) : Reader :=
  ⟨pattern, Spot.start, false⟩

def isDone (reader : Reader) : Bool :=
  reader.rest.isEmpty

/-- The next character. -/
def head? (reader : Reader) : Option Char :=
  reader.rest.head?

/-- The character after the next one. -/
def second? (reader : Reader) : Option Char :=
  reader.rest[1]?

/-- Behind the next character. -/
def step (reader : Reader) : Reader :=
  match reader.rest with
  | [] => reader
  | character :: rest =>
      { reader with rest := rest, spot := reader.spot.past character }

/-- Behind blanks and comments, in the verbose form. -/
def pass (reader : Reader) : Reader :=
  if reader.verbose then
    let (rest, spot) := passBlanks false reader.rest reader.spot
    { reader with rest := rest, spot := spot }
  else reader

/-- Behind the next character and what is passed over after it. -/
def stepPass (reader : Reader) : Reader :=
  reader.step.pass

/-- The character that counts after the next one.  The first character of a
comment counts here. -/
def secondPass? (reader : Reader) : Option Char :=
  if reader.verbose then
    let later := reader.rest.tail.dropWhile isBlank
    match later with
    | '#' :: comment => (comment.dropWhile isBlank).head?
    | _ => later.head?
  else reader.second?

/-- Behind a text, if it comes next. -/
def takes? (reader : Reader) (text : String) : Option Reader :=
  if text.toList.isPrefixOf reader.rest then
    some (text.toList.foldl (fun reader _ => reader.step) reader)
  else none

/-- The place, and the next character. -/
def here (reader : Reader) : Span :=
  .point reader.spot

def headSpan (reader : Reader) : Span :=
  ⟨reader.spot, reader.step.spot⟩

/-- What was read from a place on. -/
def since (reader : Reader) (start : Spot) : Span :=
  ⟨start, reader.spot⟩

end Reader

/-- Ends reading with a flaw. -/
def refuse {α : Type} (flaw : Flaw) (span : Span) : Except Complaint α :=
  .error (.of flaw span)

end SignalHub.Pattern
