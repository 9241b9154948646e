import SignalHub.Pattern.Span

/-!
# Pattern trees

A pattern as it is written, every part with the span that it takes.
-/

namespace SignalHub.Pattern

inductive Flag where
  | caseless
  | manyLines
  | dotMatchesLineEnd
  | lazy
  | unicode
  | anyLineEnd
  | verbose
deriving DecidableEq, Repr

/-- Flags in the order in which they are written, each with whether it is
set. -/
abbrev FlagChanges := List (Flag × Bool)

/-- What the first mention of a flag makes of it. -/
def FlagChanges.state? (changes : FlagChanges) (flag : Flag) : Option Bool :=
  (changes.find? (·.1 == flag)).map (·.2)

/-- What a group does: it changes flags, and what it holds may be asked for
later. -/
structure Grouping where
  captures : Bool
  changes : FlagChanges
deriving DecidableEq, Repr

/-- A character.  With two hexadecimal digits, it may also mean a byte. -/
structure Letter where
  span : Span
  character : Char
  isByte : Bool
deriving DecidableEq, Repr

inductive Kind where
  | digit
  | blank
  | word
deriving DecidableEq, Repr

/-- The named classes of the first 128 characters. -/
inductive AsciiKind where
  | alnum
  | alpha
  | ascii
  | blank
  | cntrl
  | digit
  | graph
  | lower
  | print
  | punct
  | space
  | upper
  | word
  | xdigit
deriving DecidableEq, Repr

namespace AsciiKind

def all : List (String × AsciiKind) :=
  [("alnum", alnum), ("alpha", alpha), ("ascii", ascii), ("blank", blank),
    ("cntrl", cntrl), ("digit", digit), ("graph", graph), ("lower", lower),
    ("print", print), ("punct", punct), ("space", space), ("upper", upper),
    ("word", word), ("xdigit", xdigit)]

def ofName? (name : String) : Option AsciiKind :=
  (all.find? (·.1 == name)).map (·.2)

end AsciiKind

inductive Operator where
  | intersection
  | difference
  | symmetricDifference
deriving DecidableEq, Repr

/-- What is inside of brackets. -/
inductive Members where
  | none (span : Span)
  | letter (letter : Letter)
  | range (span : Span) (first last : Letter)
  | ascii (span : Span) (negated : Bool) (kind : AsciiKind)
  | kind (span : Span) (negated : Bool) (kind : Kind)
  | property (span : Span) (name : Option String)
  | brackets (span : Span) (negated : Bool) (members : Members)
  | union (span : Span) (parts : List Members)
  | operation (span : Span) (operator : Operator) (left right : Members)
deriving Repr

namespace Members

def span : Members → Span
  | none span | range span _ _ | ascii span _ _ | kind span _ _
  | property span _ | brackets span _ _ | union span _
  | operation span _ _ _ => span
  | letter character => character.span

end Members

/-- What holds at a place between characters. -/
inductive Assertion where
  | lineStart
  | lineEnd
  | textStart
  | textEnd
  | boundary
  | noBoundary
  | wordStart
  | wordEnd
  | wordStartHalf
  | wordEndHalf
deriving DecidableEq, Repr

/-- A pattern as it is written.  A property is known by its name if it has one
name alone. -/
inductive Tree where
  | empty (span : Span)
  | flags (span : Span) (changes : FlagChanges)
  | letter (letter : Letter)
  | dot (span : Span)
  | assertion (span : Span) (assertion : Assertion)
  | kind (span : Span) (negated : Bool) (kind : Kind)
  | property (span : Span) (name : Option String)
  | brackets (span : Span) (negated : Bool) (members : Members)
  | repeated (span : Span) (tree : Tree) (least : Nat) (most : Option Nat)
  | group (span : Span) (grouping : Grouping) (tree : Tree)
  | choice (span : Span) (trees : List Tree)
  | sequence (span : Span) (trees : List Tree)
deriving Repr

namespace Tree

def span : Tree → Span
  | empty span | flags span _ | dot span | assertion span _ | kind span _ _
  | property span _ | brackets span _ _ | repeated span _ _ _
  | group span _ _ | choice span _ | sequence span _ => span
  | letter character => character.span

/-- Trees one after the other. -/
def ofSequence (span : Span) : List Tree → Tree
  | [] => empty span
  | [tree] => tree
  | trees => sequence span trees

/-- What cannot be repeated. -/
def isBare : Tree → Bool
  | empty _ | flags _ _ => true
  | _ => false

end Tree

end SignalHub.Pattern
