import SignalHub.Pattern.Depth
import SignalHub.Pattern.Grammar
import SignalHub.Pattern.Match
import SignalHub.Pattern.Meaning
import SignalHub.Pattern.Size

/-!
# Searching for patterns

From the text of a pattern to an expression that can be searched for.  A pattern
that was read and understood may still be refused: for boundaries between words
that may have any characters, and for its size.
-/

namespace SignalHub.Pattern

/-- Why a pattern cannot be searched for. -/
inductive Refusal where
  | flawed (complaint : Complaint)
  | wideBoundary
  | tooLarge
deriving DecidableEq, Repr

/-- What is said about a refused pattern, in lines. -/
def Refusal.lines (pattern : String) : Refusal → List String
  | flawed complaint => complaint.lines pattern
  | wideBoundary => ["error building NFA"]
  | tooLarge =>
      ["Compiled regex exceeds size limit of " ++ toString sizeLimit ++
        " bytes."]

/-- Reads a pattern and finds what it means. -/
def understand (pattern : String) : Except Complaint Expression := do
  let tree ← readTree pattern.toList
  tree.checkDepth 0
  let (expression, _) ← tree.meaning .standard
  return expression

/-- The expression that a pattern stands for, if it can be searched for.  The
machine that goes forward is built before words are thought of. -/
def compile (pattern : String) : Except Refusal Expression := do
  let expression ← (understand pattern).mapError .flawed
  if expression.isTooLarge .forward then throw .tooLarge
  else if expression.looksWide then throw .wideBoundary
  else if expression.isTooLarge .backward then throw .tooLarge
  else return expression

end SignalHub.Pattern
