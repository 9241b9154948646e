import SignalHub.Pattern.Expression

/-!
# Matching

A message matches an expression if some part of it does.  Marks on the places of
a message are carried from where parts begin to where they end, for all
beginnings at once: repeating a step can only go on for as long as marks change.
-/

namespace SignalHub.Pattern

open Text

/-- One mark for every place of a message, that behind its end included. -/
abbrev Marks := List Bool

namespace Marks

/-- The marks of one list or the other. -/
def join (left right : Marks) : Marks :=
  left.zipWith (· || ·) right

/-- Goes the same step several times, as long as marks change. -/
def advance (step : Marks → Marks) : Nat → Marks → Marks
  | 0, marks => marks
  | count + 1, marks =>
      let next := step marks
      if next = marks then marks else advance step count next

/-- The marks that are reached in a number of equal steps at most, as long as
there are more of them. -/
def spread (step : Marks → Marks) : Nat → Marks → Marks
  | 0, marks => marks
  | count + 1, marks =>
      let next := marks.join (step marks)
      if next = marks then marks else spread step count next

end Marks

/-- The conditions that hold at the places of a message, the character before
the first of them given. -/
def lookMarks (look : Look) (before : Option Char) : List Char → Marks
  | [] => [look.holds before none]
  | character :: rest =>
      look.holds before (some character) ::
        lookMarks look (some character) rest

namespace Expression

/-- Carries marks to the places where an expression can end that begins at a
marked place. -/
def carry (message : List Char) : Expression → Marks → Marks
  | empty, marks => marks
  | set members, marks =>
      false ::
        marks.zipWith (fun mark character =>
          mark && Ranges.holds members character) message
  | look condition, marks =>
      marks.zipWith (· && ·) (lookMarks condition none message)
  | both first second, marks =>
      second.carry message (first.carry message marks)
  | either first second, marks =>
      (first.carry message marks).join (second.carry message marks)
  | repeated body least most, marks =>
      let step := body.carry message
      Marks.spread step
        (match most with
        | some most => most - least
        | none => message.length)
        (Marks.advance step least marks)
  | captured body, marks => body.carry message marks

/-- Whether some part of a message is as an expression says. -/
def isIn (expression : Expression) (message : String) : Bool :=
  let characters := message.toList
  (expression.carry characters
    (List.replicate (characters.length + 1) true)).contains true

end Expression

end SignalHub.Pattern
