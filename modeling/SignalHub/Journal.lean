import SignalHub.Severity
import SignalHub.Signal

/-!
# The journal

Records that the program writes about itself, and signals that are forwarded.
A record is always produced; the maximum in force decides whether it is seen.
-/

namespace SignalHub

inductive Level where
  | error
  | warn
  | info
  | debug
  | trace
deriving DecidableEq, Repr

namespace Level

def rank : Level → Nat
  | .error => 1
  | .warn => 2
  | .info => 3
  | .debug => 4
  | .trace => 5

def name : Level → String
  | .error => "ERROR"
  | .warn => "WARN"
  | .info => "INFO"
  | .debug => "DEBUG"
  | .trace => "TRACE"

end Level

/-- The level of a severity; `none` has no counterpart. -/
def Severity.level? : Severity → Option Level
  | .none => Option.none
  | .error => some .error
  | .warning => some .warn
  | .info => some .info
  | .debug => some .debug
  | .trace => some .trace

/-- How much is seen: nothing, or everything up to a level. -/
inductive Verbosity where
  | off
  | upTo (level : Level)
deriving DecidableEq, Repr

namespace Verbosity

def rank : Verbosity → Nat
  | .off => 0
  | .upTo level => level.rank

def admits (maximum : Verbosity) (level : Level) : Bool :=
  level.rank ≤ maximum.rank

def name : Verbosity → String
  | .off => "OFF"
  | .upTo level => level.name

def all : List Verbosity :=
  [.off, .upTo .error, .upTo .warn, .upTo .info, .upTo .debug, .upTo .trace]

/-- Lower case for the twenty-six letters only. -/
def fold (text : String) : List Char :=
  text.toList.map Char.toLower

/-- Reads a name in any mixture of cases. -/
def ofName? (name : String) : Option Verbosity :=
  all.find? fun verbosity => fold verbosity.name == fold name

end Verbosity

/-- A line of the journal.  Only a forwarded signal has an origin. -/
structure Record where
  level : Level
  target : String
  message : String
  origin : Option Origin
deriving DecidableEq, Repr

namespace Record

/-- The target of forwarded signals. -/
def signalTarget : String := "vm"

/-- The level that a signal of a category is forwarded at: that of the
severity with this name, and `info` for every other category. -/
def levelOf (category : String) : Level :=
  ((Severity.ofName? category).bind Severity.level?).getD .info

/-- A signal as a record. -/
def ofSignal (signal : Signal) : Record :=
  { level := levelOf signal.category
    target := signalTarget
    message := "[" ++ signal.category ++ "] " ++ signal.message
    origin := some signal.origin }

/-- A call with an index outside of the severity table. -/
def invalidSeverity (fault : InvalidSeverity) : Record :=
  ⟨.warn, "vm_diagnostics::ffi", fault.message, none⟩

end Record

end SignalHub
