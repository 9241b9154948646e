import SignalHub.Filter
import SignalHub.Journal
import SignalHub.Lock
import SignalHub.Output.Transfer
import SignalHub.Signal

/-!
# Traces

Everything that happens during a call, in order: questions to filters, signals
at sinks, calls of the host's functions, traffic on streams, text for standard
output, journal records, and the locks taken on the way.
-/

namespace SignalHub

open Output Text

/-- Whose function is called: one of this program, or one of the foreign
side. -/
inductive Party where
  | native
  | foreign
deriving DecidableEq, Repr

/-- An event.  A hub puts a `question` to its filter and makes a `delivery` to
its sink; what these then call in the host is `asked` and has `received`. -/
inductive Event where
  | question (filter : Filter) (category : String)
  | formatted (taken : Nat) (announced : Bool)
  | delivery (sink : Sink) (signal : Signal)
  | asked (party : Party) (category : String)
  | received (party : Party) (signal : Signal)
  | woken (waiting : Option Nat)
  | status (party : Party)
  | printed (text : String) (result : Except Fault Nat)
  | polled (signals : List Signal)
  | record (record : Record)
  | transfer (transfer : Transfer)
  | shown (data : Bytes)
  | lock (step : LockStep)

abbrev Trace := List Event

namespace Trace

/-- The journal records of a trace. -/
def records (trace : Trace) : List Record :=
  trace.filterMap fun
    | .record record => some record
    | _ => none

/-- The steps of a trace on the locks. -/
def lockSteps (trace : Trace) : List LockStep :=
  trace.filterMap fun
    | .lock step => some step
    | _ => none

/-- What a trace sends to standard output. -/
def shown (trace : Trace) : Bytes :=
  trace.flatMap fun
    | .shown data => data
    | _ => []

/-- The traffic of a trace on streams. -/
def transfers (trace : Trace) : List Transfer :=
  trace.filterMap fun
    | .transfer transfer => some transfer
    | _ => none

@[simp]
theorem records_append (left right : Trace) :
    records (left ++ right) = records left ++ records right := by
  simp [records]

@[simp]
theorem lockSteps_append (left right : Trace) :
    lockSteps (left ++ right) = lockSteps left ++ lockSteps right := by
  simp [lockSteps]

@[simp]
theorem shown_append (left right : Trace) :
    shown (left ++ right) = shown left ++ shown right := by
  simp [shown]

@[simp]
theorem transfers_append (left right : Trace) :
    transfers (left ++ right) = transfers left ++ transfers right := by
  simp [transfers]

/-- Whether an event is seen when the journal has a maximum. -/
def sees (maximum : Verbosity) : Event → Bool
  | .record record => maximum.admits record.level
  | _ => true

/-- A trace without the records above the maximum. -/
def upTo (maximum : Verbosity) (trace : Trace) : Trace :=
  trace.filter (sees maximum)

end Trace

end SignalHub
