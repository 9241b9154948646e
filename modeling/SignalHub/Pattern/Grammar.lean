import SignalHub.Pattern.Brackets
import SignalHub.Pattern.Group

/-!
# Reading patterns

Characters, classes and groups one after the other, with operators behind them
and choices between them.  Groups that are not closed yet are kept on a stack.
-/

namespace SignalHub.Pattern

open Text

/-- Trees that were read one after the other, the last one first. -/
structure Sequence where
  start : Spot
  trees : List Tree

namespace Sequence

def nothing (spot : Spot) : Sequence := ⟨spot, []⟩

def push (sequence : Sequence) (tree : Tree) : Sequence :=
  { sequence with trees := tree :: sequence.trees }

/-- The tree of a sequence that ends at a place. -/
def tree (sequence : Sequence) (stop : Spot) : Tree :=
  .ofSequence ⟨sequence.start, stop⟩ sequence.trees.reverse

end Sequence

/-- What is not closed yet: a group with what was read around it, or a choice
with its ways so far, the last one first. -/
inductive Unclosed where
  | group (around : Sequence) (parenthesis : Span) (grouping : Grouping)
      (verbose : Bool)
  | choice (start : Spot) (ways : List Tree)

/-- A pattern that was read in part. -/
structure Progress where
  stack : List Unclosed
  sequence : Sequence
  names : List GroupName
  reader : Reader

namespace Progress

/-- Before the first character. -/
def start (pattern : List Char) : Progress :=
  ⟨[], .nothing Spot.start, [], .ofPattern pattern⟩

/-- One more tree, and where reading goes on. -/
def push (progress : Progress) (tree : Tree) (reader : Reader) : Progress :=
  { progress with
    sequence := progress.sequence.push tree
    reader := reader }

/-- The next way of a choice. -/
def nextWay (progress : Progress) : Progress :=
  let stop := progress.reader.spot
  let way := progress.sequence.tree stop
  let stack :=
    match progress.stack with
    | .choice start ways :: rest => .choice start (way :: ways) :: rest
    | others => .choice progress.sequence.start [way] :: others
  let reader := progress.reader.step
  { progress with
    stack := stack
    sequence := .nothing reader.spot
    reader := reader }

/-- What was read since the last parenthesis, as one tree, and what is
unclosed around it. -/
def inner (progress : Progress) : Tree × List Unclosed :=
  let stop := progress.reader.spot
  let last := progress.sequence.tree stop
  match progress.stack with
  | .choice start ways :: rest =>
      (.choice ⟨start, stop⟩ (last :: ways).reverse, rest)
  | others => (last, others)

/-- At an opening parenthesis. -/
def openGroup (progress : Progress) : Except Complaint Progress := do
  let verbose := progress.reader.verbose
  let (opening, names, behind) ←
    readOpening progress.names progress.reader
  match opening with
  | .flags span changes =>
      let next := (changes.state? .verbose).getD verbose
      return { progress with
        sequence := progress.sequence.push (.flags span changes)
        names := names
        reader := { behind with verbose := next } }
  | .group grouping =>
      let next := (grouping.changes.state? .verbose).getD verbose
      return {
        stack :=
          .group progress.sequence progress.reader.headSpan grouping verbose ::
            progress.stack
        sequence := .nothing behind.spot
        names := names
        reader := { behind with verbose := next } }

/-- At a closing parenthesis. -/
def closeGroup (progress : Progress) : Except Complaint Progress :=
  match progress.inner with
  | (tree, .group around parenthesis grouping verbose :: rest) =>
      let behind := { progress.reader.step with verbose := verbose }
      .ok { progress with
        stack := rest
        sequence :=
          around.push (.group (behind.since parenthesis.start) grouping tree)
        reader := behind }
  | _ => refuse .groupUnopened progress.reader.headSpan

/-- The tree that an operator is put behind, and what comes before it. -/
def operand (progress : Progress) : Except Complaint (Tree × Sequence) :=
  match progress.sequence.trees with
  | tree :: before =>
      if tree.isBare then refuse .nothingRepeated progress.reader.here
      else .ok (tree, { progress.sequence with trees := before })
  | [] => refuse .nothingRepeated progress.reader.here

/-- Puts an operator behind a tree. -/
def repeating (progress : Progress) (before : Sequence) (tree : Tree)
    (least : Nat) (most : Option Nat) (behind : Reader) : Progress :=
  { progress with
    sequence :=
      before.push
        (.repeated (behind.since tree.span.start) tree least most)
    reader := behind }

/-- A question mark behind an operator belongs to it. -/
def passLazy (reader : Reader) : Reader :=
  if reader.head? = some '?' then reader.step else reader

/-- At an operator of one character. -/
def repeatSimply (progress : Progress) (least : Nat) (most : Option Nat) :
    Except Complaint Progress := do
  let (tree, before) ← progress.operand
  let behind := passLazy progress.reader.step
  return progress.repeating before tree least most behind

/-- A count that is missing is a flaw of its own. -/
def countOf : Except Complaint Nat → Except Complaint Nat
  | .error complaint =>
      .error
        (if complaint.flaw = .decimalEmpty then
          { complaint with flaw := .countEmpty }
        else complaint)
  | .ok count => .ok count

/-- Reads the counts behind an opening brace, up to where the closing one
should be.  A number that cannot be used is a flaw only once it is known to be
a count. -/
def readCounts (brace : Spot) (reader : Reader) :
    Except Complaint ((Nat × Option Nat) × Reader) := do
  let (least, behind) := readDecimal reader
  if behind.isDone then refuse .countUnclosed (behind.since brace)
  else if behind.head? = some ',' then
    let second := behind.stepPass
    if second.isDone then refuse .countUnclosed (second.since brace)
    else if second.head? = some '\x7d' then
      return ((← countOf least, none), second)
    else
      let least ← countOf least
      let (most, last) := readDecimal second
      return ((least, some (← countOf most)), last)
  else
    let count ← countOf least
    return ((count, some count), behind)

/-- At an opening brace. -/
def repeatCounted (progress : Progress) : Except Complaint Progress := do
  let (tree, before) ← progress.operand
  let brace := progress.reader.spot
  let first := progress.reader.stepPass
  if first.isDone then refuse .countUnclosed (first.since brace)
  else
    let ((least, most), closing) ← readCounts brace first
    if closing.head? ≠ some '\x7d' then
      refuse .countUnclosed (closing.since brace)
    else
      let behind := passLazy closing.stepPass
      if most.any (· < least) then
        refuse .countOrder (behind.since brace)
      else return progress.repeating before tree least most behind

/-- One step at the character that comes next. -/
def advance (progress : Progress) (character : Char) :
    Except Complaint Progress := do
  let reader := progress.reader
  match character with
  | '(' => progress.openGroup
  | ')' => progress.closeGroup
  | '|' => return progress.nextWay
  | '[' =>
      let (tree, behind) ← readBrackets reader
      return progress.push tree behind
  | '?' => progress.repeatSimply 0 (some 1)
  | '*' => progress.repeatSimply 0 none
  | '+' => progress.repeatSimply 1 none
  | '\x7b' => progress.repeatCounted
  | '\\' =>
      let (primitive, behind) ← readEscape reader
      return progress.push primitive.tree behind
  | '.' => return progress.push (.dot reader.headSpan) reader.step
  | '^' =>
      return progress.push (.assertion reader.headSpan .lineStart) reader.step
  | '$' =>
      return progress.push (.assertion reader.headSpan .lineEnd) reader.step
  | other =>
      return progress.push (.letter ⟨reader.headSpan, other, false⟩)
        reader.step

/-- The tree at the end of a pattern, if nothing is unclosed. -/
def finish (progress : Progress) : Except Complaint Tree :=
  match progress.inner with
  | (tree, []) => .ok tree
  | (_, .group _ parenthesis _ _ :: _) => refuse .groupUnclosed parenthesis
  | (tree, .choice _ _ :: _) => .ok tree

/-- Reads to the end.  Every step reads a character at least. -/
def toEnd : Nat → Progress → Except Complaint Tree
  | 0, progress => progress.finish
  | fuel + 1, progress =>
      let progress := { progress with reader := progress.reader.pass }
      match progress.reader.head? with
      | none => progress.finish
      | some character => do
          let next ← progress.advance character
          next.toEnd fuel

end Progress

/-- Reads a pattern. -/
def readTree (pattern : List Char) : Except Complaint Tree :=
  (Progress.start pattern).toEnd (pattern.length + 1)

end SignalHub.Pattern
