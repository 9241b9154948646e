/-!
# Spans

Places in a pattern and what lies between two of them.
-/

namespace SignalHub.Pattern

/-- A place in a text: how many characters lie before it, its line, and its
column, both counted from one. -/
structure Spot where
  offset : Nat
  line : Nat
  column : Nat
deriving DecidableEq, Repr

namespace Spot

def start : Spot := ⟨0, 1, 1⟩

/-- The place behind a character. -/
def past (spot : Spot) (character : Char) : Spot :=
  if character = '\n' then ⟨spot.offset + 1, spot.line + 1, 1⟩
  else ⟨spot.offset + 1, spot.line, spot.column + 1⟩

end Spot

structure Span where
  start : Spot
  stop : Spot
deriving DecidableEq, Repr

namespace Span

/-- The empty span at a place. -/
def point (spot : Spot) : Span := ⟨spot, spot⟩

def isOneLine (span : Span) : Bool :=
  span.start.line == span.stop.line

/-- Whether a span comes before another one, or with it. -/
def isBefore (left right : Span) : Bool :=
  left.start.offset < right.start.offset ||
    (left.start.offset == right.start.offset &&
      left.stop.offset ≤ right.stop.offset)

end Span

end SignalHub.Pattern
