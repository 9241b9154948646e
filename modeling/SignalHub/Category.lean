import SignalHub.Text.Pieces
import SignalHub.Text.Property
import SignalHub.Text.Utf8

/-!
# Sets of categories

The categories that are enabled, taken literally whatever they hold.  Only
reading a list trims and drops: its entries stand between commas.
-/

namespace SignalHub

open Text

/-- The order of texts by their bytes. -/
def byteLe (left right : String) : Bool :=
  bytes left ≤ bytes right

structure CategorySet where
  members : List String
deriving DecidableEq, Repr

namespace CategorySet

def empty : CategorySet := ⟨[]⟩

def isEmpty (set : CategorySet) : Bool :=
  set.members.isEmpty

def accepts (set : CategorySet) (category : String) : Bool :=
  set.members.contains category

def enable (set : CategorySet) (category : String) : CategorySet :=
  if set.accepts category then set else ⟨set.members ++ [category]⟩

def disable (set : CategorySet) (category : String) : CategorySet :=
  ⟨set.members.filter (· != category)⟩

def extend (set : CategorySet) (categories : List String) : CategorySet :=
  categories.foldl enable set

def ofList (categories : List String) : CategorySet :=
  empty.extend categories

/-- The members in the order of their bytes. -/
def enabled (set : CategorySet) : List String :=
  set.members.mergeSort byteLe

/-- The entries of a list: what stands between commas, trimmed, if anything
is left of it. -/
def entries (list : String) : List String :=
  ((pieces ',' list.toList).map trimChars).filterMap fun entry =>
    if entry.isEmpty then none else some (String.ofList entry)

def parse (list : String) : CategorySet :=
  ofList (entries list)

/-- The set that the value of an environment variable lists: none if it is
not set or not text. -/
def ofVariable (value : Option Bytes) : CategorySet :=
  match value.bind decode? with
  | some list => parse list
  | none => empty

/-- What a set is started from. -/
inductive Start where
  | empty
  | list (text : String)
  | members (categories : List String)
  | variable (value : Option Bytes)
deriving DecidableEq, Repr

def ofStart : Start → CategorySet
  | .empty => empty
  | .list text => parse text
  | .members categories => ofList categories
  | .variable value => ofVariable value

/-- What is done to a set, or asked of it. -/
inductive Step where
  | enable (category : String)
  | disable (category : String)
  | extend (categories : List String)
  | accepts (category : String)
deriving DecidableEq, Repr

/-- Does a step; taking a category out tells whether it was in. -/
def perform (set : CategorySet) : Step → CategorySet × Option Bool
  | .enable category => (set.enable category, none)
  | .disable category =>
      (set.disable category, some (set.accepts category))
  | .extend categories => (set.extend categories, none)
  | .accepts category => (set, some (set.accepts category))

/-- Does steps in order. -/
def performAll (set : CategorySet) (steps : List Step) : CategorySet :=
  steps.foldl (fun current step => (current.perform step).1) set

theorem accepts_enable (set : CategorySet) (category other : String) :
    (set.enable category).accepts other =
      (set.accepts other || other == category) := by
  unfold enable
  split
  · by_cases same : other = category
    · subst same
      simp_all
    · simp [same]
  · simp only [accepts, List.contains_eq_mem, List.mem_append,
      List.mem_singleton, Bool.decide_or]
    rfl

theorem accepts_disable (set : CategorySet) (category other : String) :
    (set.disable category).accepts other =
      (set.accepts other && other != category) := by
  simp only [disable, accepts, List.contains_eq_mem, List.mem_filter,
    Bool.decide_and]
  cases other != category <;> simp

end CategorySet

end SignalHub
