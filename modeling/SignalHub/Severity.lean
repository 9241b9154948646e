/-!
# Severities

The fixed vocabulary of severities.  Each has an index and a name, the name
being the category of a signal that is emitted by severity.
-/

namespace SignalHub

inductive Severity where
  | none
  | error
  | warning
  | info
  | debug
  | trace
deriving DecidableEq, Repr

namespace Severity

def all : List Severity :=
  [.none, .error, .warning, .info, .debug, .trace]

def index : Severity → Nat
  | .none => 0
  | .error => 1
  | .warning => 2
  | .info => 3
  | .debug => 4
  | .trace => 5

def name : Severity → String
  | .none => "NONE"
  | .error => "ERROR"
  | .warning => "WARNING"
  | .info => "INFO"
  | .debug => "DEBUG"
  | .trace => "TRACE"

/-- The severity of an index; the table has six. -/
def ofIndex? (index : Int) : Option Severity :=
  all.find? fun severity => (severity.index : Int) == index

/-- The severity of a name, which is compared as it stands. -/
def ofName? (name : String) : Option Severity :=
  all.find? fun severity => severity.name == name

/-- A more verbose severity is greater. -/
def order (left right : Severity) : Ordering :=
  compare left.index right.index

end Severity

/-- An index outside of the table. -/
structure InvalidSeverity where
  index : Int
deriving DecidableEq, Repr

namespace InvalidSeverity

def message (fault : InvalidSeverity) : String :=
  "Log level " ++ toString fault.index ++
    " is outside of the severity table (0..=5)"

end InvalidSeverity

/-- The severity of an index, or what is wrong with it. -/
def Severity.ofIndex (index : Int) : Except InvalidSeverity Severity :=
  match Severity.ofIndex? index with
  | some severity => .ok severity
  | Option.none => .error ⟨index⟩

end SignalHub
