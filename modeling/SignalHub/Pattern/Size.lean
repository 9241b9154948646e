import SignalHub.Pattern.Expression
import SignalHub.Pattern.Octets

/-!
# Sizes of expressions

An expression is searched for with two machines that read octets, one forward
and one backward.  Here stands how much memory the states of each take, and what
is too much.
-/

namespace SignalHub.Pattern

/-- The most memory that the states of a machine may take. -/
def sizeLimit : Nat := 10 * Nat.pow 2 20

/-- What a state takes, and every way out of it that is kept besides. -/
def stateSize : Nat := 32

def transitionSize : Nat := 8

def branchSize : Nat := 4

/-- A state with two ways out. -/
def forkSize : Nat := stateSize + 2 * branchSize

inductive Direction where
  | forward
  | backward
deriving DecidableEq, Repr

namespace CharacterSet

/-- What begins sequences, of every length from one up to another one below
that of a sequence. -/
def beginnings (least spared : Nat) (sequences : List OctetRanges) :
    List OctetRanges :=
  (sequences.flatMap fun ranges =>
    (List.range' least (ranges.length + 1 - spared - least)).map
      ranges.take).eraseDups

/-- What is left of sequences behind a beginning. -/
def behind (beginning : OctetRanges) (sequences : List OctetRanges) :
    List OctetRanges :=
  sequences.filterMap fun ranges =>
    if beginning.isPrefixOf ranges then some (ranges.drop beginning.length)
    else none

/-- The states for a set beyond the first 128 characters.  Forward, beginnings
that leave the same share a state; backward, all have their own. -/
def wideSize (direction : Direction) (sequences : List OctetRanges) : Nat :=
  match direction with
  | .forward =>
      let states :=
        ((beginnings 0 1 sequences).map (behind · sequences)).eraseDups
      let ways := states.flatMap fun left =>
        (left.filterMap List.head?).eraseDups
      stateSize * (states.length + 1) + transitionSize * ways.length
  | .backward =>
      stateSize * ((beginnings 1 0 sequences).length + 2) +
        branchSize * sequences.length

/-- The states for a set. -/
def size (direction : Direction) (set : CharacterSet) : Nat :=
  match set.single? with
  | some _ => stateSize * set.octets.flatten.length
  | none =>
      if set.isAscii then
        2 * stateSize + transitionSize * set.canonical.length
      else wideSize direction set.octets

end CharacterSet

namespace Expression

/-- Whether an expression can match without a character. -/
def isNullable : Expression → Bool
  | empty | look _ => true
  | set _ => false
  | both first second => first.isNullable && second.isNullable
  | either first second => first.isNullable || second.isNullable
  | repeated body least _ => least = 0 || body.isNullable
  | captured body => body.isNullable

/-- Whether an expression can match no character at all. -/
def isBlank : Expression → Bool
  | empty | look _ => true
  | set _ => false
  | both first second | either first second =>
      first.isBlank && second.isBlank
  | repeated body _ most => most = some 0 || body.isBlank
  | captured body => body.isBlank

/-- The states for a repetition of a body. -/
def repeatedSize (body : Nat) (nullable : Bool) :
    Nat → Option Nat → Nat
  | 0, none =>
      if nullable then body + 2 * forkSize + stateSize else body + forkSize
  | least, none => least * body + forkSize
  | 0, some 1 => body + forkSize + stateSize
  | least, some most =>
      if least = most then most * body
      else
        least * body + (most - least) * (body + forkSize) +
          (if least = 0 then 2 else 1) * stateSize

/-- The states for an expression.  More than one repetition of what matches no
character is as good as one. -/
def size (direction : Direction) : Expression → Nat
  | empty | look _ => stateSize
  | set members => members.size direction
  | both first second => first.size direction + second.size direction
  | either first second =>
      let joining :=
        match second with
        | either _ _ => branchSize
        | _ => forkSize + stateSize
      first.size direction + second.size direction + joining
  | repeated body least most =>
      if body.isBlank then
        repeatedSize (body.size direction) true (min least 1)
          (some (min (most.getD 1) 1))
      else repeatedSize (body.size direction) body.isNullable least most
  | captured body =>
      body.size direction +
        match direction with
        | .forward => 2 * stateSize
        | .backward => 0

/-- The states around an expression: those that skip what comes before it and
the one that ends, and those that keep the place of the whole. -/
def surroundingSize : Direction → Nat
  | .forward => forkSize + 5 * stateSize + transitionSize
  | .backward => forkSize + 3 * stateSize + transitionSize

def isTooLarge (direction : Direction) (expression : Expression) : Bool :=
  sizeLimit < surroundingSize direction + expression.size direction


end Expression

end SignalHub.Pattern
