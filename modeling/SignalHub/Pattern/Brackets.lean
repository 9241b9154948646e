import SignalHub.Pattern.Escape

/-!
# Bracketed classes

Classes of characters between brackets: characters, ranges, named classes,
classes within classes, and operations on what stands before and behind them.
-/

namespace SignalHub.Pattern

open Text

/-- Members that were read and are not joined yet, the last one first. -/
structure Gathered where
  span : Span
  members : List Members

namespace Gathered

/-- Nothing, at a place. -/
def nothing (spot : Spot) : Gathered := ⟨.point spot, []⟩

/-- The span reaches from the first member to the last. -/
def push (gathered : Gathered) (member : Members) : Gathered :=
  let start :=
    if gathered.members.isEmpty then member.span.start
    else gathered.span.start
  ⟨⟨start, member.span.stop⟩, member :: gathered.members⟩

def join (gathered : Gathered) : Members :=
  match gathered.members with
  | [] => .none gathered.span
  | [member] => member
  | members => .union gathered.span members.reverse

end Gathered

/-- A class that is not closed yet: what was gathered around it, and the span
of its opening.  An operation waits for what stands behind it. -/
inductive OpenClass where
  | brackets (around : Gathered) (opening : Span) (negated : Bool)
  | operation (operator : Operator) (left : Members)

/-- Finishes an operation that waits. -/
def closeOperation (right : Members) :
    List OpenClass → Members × List OpenClass
  | .operation operator left :: rest =>
      (.operation ⟨left.span.start, right.span.stop⟩ operator left right, rest)
  | others => (right, others)

/-- The flaw of classes that are never closed. -/
def refuseUnclosed {α : Type} (reader : Reader) :
    List OpenClass → Except Complaint α
  | .brackets _ opening _ :: _ => refuse .classUnclosed opening
  | .operation _ _ :: rest => refuseUnclosed reader rest
  | [] => refuse .classUnclosed reader.here

/-- A character that stands for itself. -/
def plainLetter (reader : Reader) (character : Char) : Members :=
  .letter ⟨reader.headSpan, character, false⟩

/-- Hyphens at the start of a class stand for themselves. -/
def readHyphens (fuel : Nat) (start : Spot) (gathered : Gathered)
    (reader : Reader) : Except Complaint (Gathered × Reader) :=
  match fuel with
  | 0 => .ok (gathered, reader)
  | fuel + 1 =>
      if reader.head? = some '-' then
        let behind := reader.stepPass
        if behind.isDone then refuse .classUnclosed (.point start)
        else
          readHyphens fuel start (gathered.push (plainLetter reader '-'))
            behind
      else .ok (gathered, reader)

/-- Reads the opening of a class.  A closing bracket at its very start stands
for itself, so that no class is empty as it is written. -/
def openBrackets (around : Gathered) (reader : Reader) :
    Except Complaint (OpenClass × Gathered × Reader) := do
  let start := reader.spot
  let first := reader.stepPass
  if first.isDone then refuse .classUnclosed (first.since start)
  let negated := first.head? = some '^'
  let second := if negated then first.stepPass else first
  if second.isDone then refuse .classUnclosed (second.since start)
  let (gathered, third) ←
    readHyphens second.rest.length start (.nothing second.spot) second
  if gathered.members.isEmpty && third.head? = some ']' then
    let behind := third.stepPass
    if behind.isDone then refuse .classUnclosed (behind.since start)
    return (.brackets around (behind.since start) negated,
      gathered.push (plainLetter third ']'), behind)
  else
    return (.brackets around (third.since start) negated, gathered, third)

/-- Reads a named class of the first 128 characters, if that is what comes. -/
def readAscii? (reader : Reader) : Option (Members × Reader) :=
  match reader.takes? "[:" with
  | none => none
  | some opening =>
      let negated := opening.head? = some '^'
      let naming := if negated then opening.step else opening
      let name := naming.rest.takeWhile (· != ':')
      let closing :=
        name.foldl (fun reader _ => reader.step) naming
      match closing.takes? ":]", AsciiKind.ofName? (String.ofList name) with
      | some behind, some kind =>
          some (.ascii (behind.since reader.spot) negated kind, behind)
      | _, _ => none

/-- Reads one member, not looking whether it begins a range. -/
def readMember (reader : Reader) (character : Char) :
    Except Complaint (Primitive × Reader) :=
  if character = '\\' then readEscape reader
  else .ok (.letter ⟨reader.headSpan, character, false⟩, reader.step)

/-- Reads one member or a range.  A hyphen before a closing bracket or another
hyphen begins no range. -/
def readRange (stack : List OpenClass) (reader : Reader)
    (character : Char) : Except Complaint (Members × Reader) := do
  let (first, behind) ← readMember reader character
  let hyphen := behind.pass
  if hyphen.isDone then refuseUnclosed hyphen stack
  else if hyphen.head? ≠ some '-' || hyphen.secondPass? = some ']' ||
      hyphen.secondPass? = some '-' then
    return (← first.member, hyphen)
  else
    let second := hyphen.stepPass
    match second.head? with
    | none => refuseUnclosed second stack
    | some character =>
        let (last, behind) ← readMember second character
        let span : Span := ⟨first.span.start, last.span.stop⟩
        let low ← first.rangeEnd
        let high ← last.rangeEnd
        if high.character < low.character then refuse .classRangeOrder span
        else return (.range span low high, behind)

/-- The operation that comes next. -/
def operator? (reader : Reader) : Option Operator :=
  match reader.head?, reader.second? with
  | some '&', some '&' => some .intersection
  | some '-', some '-' => some .difference
  | some '~', some '~' => some .symmetricDifference
  | _, _ => none

/-- Reads on in classes that are open.  Every round reads a character at
least. -/
def readMembers (fuel : Nat) (stack : List OpenClass) (gathered : Gathered)
    (reader : Reader) : Except Complaint (Tree × Reader) := do
  match fuel with
  | 0 => refuseUnclosed reader stack
  | fuel + 1 =>
      let reader := reader.pass
      match reader.head? with
      | none => refuseUnclosed reader stack
      | some '[' =>
          match readAscii? reader with
          | some (member, behind) =>
              readMembers fuel stack (gathered.push member) behind
          | none =>
              let (opened, inner, behind) ← openBrackets gathered reader
              readMembers fuel (opened :: stack) inner behind
      | some ']' =>
          let behind := reader.step
          match closeOperation gathered.join stack with
          | (members, .brackets around opening negated :: rest) =>
              let span := behind.since opening.start
              if rest.isEmpty then
                return (.brackets span negated members, behind)
              else
                readMembers fuel rest
                  (around.push (.brackets span negated members)) behind
          | (_, others) => refuseUnclosed behind others
      | some character =>
          match operator? reader with
          | some operator =>
              let (left, rest) := closeOperation gathered.join stack
              let behind := reader.step.step
              readMembers fuel (.operation operator left :: rest)
                (.nothing behind.spot) behind
          | none =>
              let (member, behind) ← readRange stack reader character
              readMembers fuel stack (gathered.push member) behind

/-- Reads a class.  The reader is at its opening bracket. -/
def readBrackets (reader : Reader) : Except Complaint (Tree × Reader) := do
  let (opened, gathered, behind) ←
    openBrackets (.nothing reader.spot) reader
  readMembers (behind.rest.length + 1) [opened] gathered behind

end SignalHub.Pattern
