import SignalHub.Category
import SignalHub.Severity
import SignalHub.Text.Terminated

/-!
# Filters

A filter answers whether signals of a category are wanted at all.  Any
function on categories is one.
-/

namespace SignalHub

open Text

inductive Filter where
  | all
  | none
  | upTo (maximum : Severity)
  | members (set : CategorySet)
  | closure (accepts : String → Bool)
  | foreign

/-- Which categories the foreign filter function accepts: all, or a list of
byte strings. -/
abbrev Acceptance := Option (List Bytes)

def Acceptance.accepts (acceptance : Acceptance) (category : Bytes) : Bool :=
  match acceptance with
  | Option.none => true
  | some categories => categories.contains category

namespace Filter

/-- A function that wants the categories with a common start. -/
def startingWith (start : Bytes) : Filter :=
  .closure fun category => start.isPrefixOf (bytes category)

/-- Severities from `error` up to the maximum are wanted, by their names;
`NONE` and all other categories are not. -/
def withinMaximum (maximum : Severity) (category : String) : Bool :=
  match Severity.ofName? category with
  | Option.none | some .none => false
  | some severity => severity.index ≤ maximum.index

/-- The answer about a category.  The foreign function sees the terminated
form of it. -/
def accepts (acceptance : Acceptance) (category : String) : Filter → Bool
  | .all => true
  | .none => false
  | .upTo maximum => withinMaximum maximum category
  | .members set => set.accepts category
  | .closure accepts => accepts category
  | .foreign => acceptance.accepts (bytes (outgoing category))

end Filter

end SignalHub
