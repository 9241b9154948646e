import SignalHub.Pattern.Flaw
import SignalHub.Pattern.Span
import SignalHub.Text.Pieces

/-!
# Complaints

A flaw at its place.  A complaint is shown with the pattern, line by line, and
with marks below the place, and below a second place that belongs to it.
-/

namespace SignalHub.Pattern

open Text

structure Complaint where
  flaw : Flaw
  span : Span
  other : Option Span
deriving DecidableEq, Repr

namespace Complaint

/-- A complaint about one place. -/
def of (flaw : Flaw) (span : Span) : Complaint :=
  ⟨flaw, span, none⟩

/-- A line without the carriage return at its end. -/
def withoutReturn (line : List Char) : List Char :=
  if line.getLast? = some '\r' then line.dropLast else line

/-- The lines of a pattern.  What follows the last line end is a line only if
it is not empty. -/
def patternLines (pattern : List Char) : List (List Char) :=
  match (pieces '\n' pattern).reverse with
  | [] => []
  | [] :: ended => (ended.map withoutReturn).reverse
  | last :: ended => (last :: ended.map withoutReturn).reverse

/-- The lines that a span can be in: one more if the last one is ended. -/
def lineCount (pattern : List Char) : Nat :=
  (patternLines pattern).length +
    if pattern.getLast? = some '\n' then 1 else 0

/-- How wide line numbers are; a single line has none. -/
def numberWidth (pattern : List Char) : Nat :=
  let count := lineCount pattern
  if count ≤ 1 then 0 else (toString count).length

/-- The places of a complaint in their order. -/
def spans (complaint : Complaint) : List Span :=
  match complaint.other with
  | none => [complaint.span]
  | some other =>
      if complaint.span.isBefore other then [complaint.span, other]
      else [other, complaint.span]

/-- What stands in front of a line. -/
def margin (width line : Nat) : List Char :=
  if width = 0 then List.replicate 4 ' '
  else
    let number := (toString line).toList
    List.replicate (width - number.length) ' ' ++ number ++ [':', ' ']

/-- Marks below spans of one line, after as many marks and blanks as were
written. -/
def marks (written : Nat) : List Span → List Char
  | [] => []
  | span :: rest =>
      let blanks := span.start.column - 1 - written
      let count := max 1 (span.stop.column - span.start.column)
      List.replicate blanks ' ' ++ List.replicate count '^' ++
        marks (written + blanks + count) rest

/-- A line of the pattern, and the marks below it. -/
def notedLine (complaint : Complaint) (width line : Nat)
    (content : List Char) : List (List Char) :=
  let here := complaint.spans.filter fun span =>
    span.isOneLine && span.start.line == line
  (margin width line ++ content) ::
    if here.isEmpty then []
    else
      [List.replicate (if width = 0 then 4 else width + 2) ' ' ++
        marks 0 here]

/-- The pattern with marks. -/
def noted (complaint : Complaint) (pattern : List Char) : List (List Char) :=
  let width := numberWidth pattern
  ((patternLines pattern).zipIdx 1).flatMap fun entry =>
    complaint.notedLine width entry.2 entry.1

/-- Spans over several lines are named and not marked. -/
def longSpan (span : Span) : String :=
  "on line " ++ toString span.start.line ++ " (column " ++
    toString span.start.column ++ ") through line " ++
    toString span.stop.line ++ " (column " ++
    toString (span.stop.column - 1) ++ ")"

/-- Encloses a pattern of several lines. -/
def divider : String :=
  String.ofList (List.replicate 79 '~')

/-- The complaint in lines. -/
def lines (complaint : Complaint) (pattern : String) : List String :=
  let characters := pattern.toList
  let noted := (complaint.noted characters).map String.ofList
  let long := (complaint.spans.filter (!·.isOneLine)).map longSpan
  let body :=
    if characters.contains '\n' then [divider] ++ noted ++ [divider] ++ long
    else noted
  "regex parse error:" :: body ++ ["error: " ++ complaint.flaw.text]

end Complaint

end SignalHub.Pattern
