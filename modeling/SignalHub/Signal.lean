/-!
# Signals and sinks

What a sink receives: a category, where the signal comes from, and the bounded
message.  A sink lets it go nowhere, into a buffer that is polled, to the console,
into the journal, or to a function of the host.
-/

namespace SignalHub

/-- The place that a signal comes from. -/
structure Origin where
  file : String
  function : String
  line : Nat
deriving DecidableEq, Repr

/-- File and line, as a reader of a console looks for them. -/
def Origin.position (origin : Origin) : String :=
  origin.file ++ ":" ++ toString origin.line

structure Signal where
  category : String
  origin : Origin
  message : String
deriving DecidableEq, Repr

/-! ## Where signals go -/

/-- What runs after a signal was buffered: it reports how many are waiting,
and an acting one then takes its turn in the script. -/
inductive Waker where
  | reporting
  | acting
deriving DecidableEq, Repr

inductive Sink where
  | discarding
  | buffering (waker : Option Waker) (waiting : List Signal)
  | console
  | journal
  | callback
  | foreign
deriving DecidableEq, Repr

/-- The sinks that can be told apart by type; callbacks cannot. -/
inductive SinkKind where
  | discarding
  | buffering
  | console
  | journal
  | foreign
deriving DecidableEq, Repr

namespace Sink

def kind? : Sink → Option SinkKind
  | .discarding => some .discarding
  | .buffering _ _ => some .buffering
  | .console => some .console
  | .journal => some .journal
  | .callback => none
  | .foreign => some .foreign

/-- Whether a signal lets a function of the host act. -/
def acts : Sink → Bool
  | .callback | .foreign | .buffering (some .acting) _ => true
  | _ => false

/-- The signals waiting in a buffer. -/
def waiting? : Sink → Option (List Signal)
  | .buffering _ waiting => some waiting
  | _ => none

end Sink

end SignalHub
