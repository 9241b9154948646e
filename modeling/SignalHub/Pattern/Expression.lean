import SignalHub.Pattern.CharacterSet

/-!
# Expressions

What a pattern means: sets of characters and conditions on places, one after the
other, in a choice, and repeated.
-/

namespace SignalHub.Pattern

open Text

/-- A condition on a place between characters. -/
inductive Look where
  | textStart
  | textEnd
  | lineStart
  | lineEnd
  /-- Lines that may end in a carriage return and a line feed, or one of
  them. -/
  | anyLineStart
  | anyLineEnd
  | boundary
  | noBoundary
  | wordStart
  | wordEnd
  | wordStartHalf
  | wordEndHalf
  /-- A boundary of words that may have characters beyond the first 128. -/
  | wideBoundary
deriving DecidableEq, Repr

inductive Expression where
  | empty
  | set (members : CharacterSet)
  | look (look : Look)
  | both (first second : Expression)
  | either (first second : Expression)
  | repeated (body : Expression) (least : Nat) (most : Option Nat)
  /-- A part whose place is kept. -/
  | captured (body : Expression)
deriving DecidableEq, Repr

/-- Characters of words among the first 128. -/
def isWordCharacter (character : Char) : Bool :=
  character.isAlphanum || character == '_'

namespace Look

/-- Whether a condition holds between the character before a place and the one
after it.  Wide boundaries hold nowhere. -/
def holds (look : Look) (before after : Option Char) : Bool :=
  let left := before.any isWordCharacter
  let right := after.any isWordCharacter
  match look with
  | textStart => before.isNone
  | textEnd => after.isNone
  | lineStart => before.isNone || before == some '\n'
  | lineEnd => after.isNone || after == some '\n'
  | anyLineStart =>
      before.isNone || before == some '\n' ||
        (before == some '\r' && after != some '\n')
  | anyLineEnd =>
      after.isNone || after == some '\r' ||
        (after == some '\n' && before != some '\r')
  | boundary => left != right
  | noBoundary => left == right
  | wordStart => !left && right
  | wordEnd => left && !right
  | wordStartHalf => !left
  | wordEndHalf => !right
  | wideBoundary => false

end Look

namespace Expression

/-- All of several expressions, one after the other. -/
def bothOf : List Expression → Expression
  | [] => empty
  | [expression] => expression
  | expression :: rest => both expression (bothOf rest)

/-- A sequence.  What is empty does not matter. -/
def sequence (expressions : List Expression) : Expression :=
  bothOf (expressions.filter (· ≠ empty))

/-- The sets that a list of expressions consists of, if all of them are
sets. -/
def sets? : List Expression → Option CharacterSet
  | [] => some []
  | set members :: rest => (sets? rest).map (members ++ ·)
  | _ => none

/-- One of several expressions, at least two. -/
def eitherOf : List Expression → Expression
  | [] => empty
  | [expression] => expression
  | expression :: rest => either expression (eitherOf rest)

/-- A choice.  A choice between sets is a set. -/
def choice (expressions : List Expression) : Expression :=
  match sets? expressions with
  | some members => set members
  | none => eitherOf expressions

/-- A repetition.  What is repeated no time at all does not matter. -/
def repeating (body : Expression) (least : Nat) (most : Option Nat) :
    Expression :=
  if most = some 0 && least = 0 then empty else repeated body least most

/-- Whether words are looked at that cannot be told. -/
def looksWide : Expression → Bool
  | look condition => condition == .wideBoundary
  | both first second | either first second =>
      first.looksWide || second.looksWide
  | repeated body _ _ | captured body => body.looksWide
  | empty | set _ => false

end Expression

end SignalHub.Pattern
