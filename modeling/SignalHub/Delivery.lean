import SignalHub.Bounded
import SignalHub.Category
import SignalHub.Signal

/-!
# Delivery through a buffer

Threads push signals into one buffer, each push being followed by a call of
the waker if there is one, and anybody may poll, a waker included.  A schedule
interleaves these turns in any order that keeps each thread's own.  The state
remembers what was pushed and polled, so that delivery can be compared with it.
-/

namespace SignalHub

/-- A turn of a thread.  It logs by a push and then a call of the waker, and it
polls by asking and then, once the buffer is free, taking all that waits.  A
look at the buffer takes nothing. -/
inductive Turn where
  | push (thread : Nat) (signal : Signal)
  | wake (thread : Nat)
  | ask (thread : Nat)
  | poll (thread : Nat)
  | look (thread : Nat)
deriving DecidableEq, Repr

/-- What a thread is in the middle of: it still has to call the waker for the
signal that it pushed at a position, or it is waiting for what it asked for. -/
inductive Errand where
  | waking (position : Nat)
  | polling
deriving DecidableEq, Repr

/-- `woken` holds the positions of the signals whose waker call ran, in the
order of these calls. -/
structure Delivery where
  waking : Bool
  pushed : List Signal
  waiting : List Signal
  polled : List (List Signal)
  errands : List (Nat × Errand)
  woken : List Nat
deriving DecidableEq, Repr

namespace Delivery

/-- Nothing pushed yet. -/
def fresh (waking : Bool) : Delivery :=
  ⟨waking, [], [], [], [], []⟩

/-- What a thread is in the middle of, if anything. -/
def errand? (delivery : Delivery) (thread : Nat) : Option Errand :=
  (delivery.errands.find? fun entry => entry.1 == thread).map Prod.snd

/-- A thread starts something. -/
def start (delivery : Delivery) (thread : Nat) (errand : Errand) : Delivery :=
  { delivery with errands := (thread, errand) :: delivery.errands }

/-- A thread is done with what it was in the middle of. -/
def finish (delivery : Delivery) (thread : Nat) : Delivery :=
  { delivery with
      errands := delivery.errands.filter fun entry => entry.1 != thread }

/-- A signal goes to the end of what waits. -/
def append (delivery : Delivery) (signal : Signal) : Delivery :=
  { delivery with
      pushed := delivery.pushed ++ [signal]
      waiting := delivery.waiting ++ [signal] }

/-- All that waits is taken at once. -/
def drain (delivery : Delivery) : Delivery :=
  { delivery with
      waiting := []
      polled := delivery.polled ++ [delivery.waiting] }

/-- One turn, if it is this thread's to take. -/
def step (delivery : Delivery) : Turn → Option Delivery
  | .push thread signal =>
      match delivery.errand? thread with
      | none =>
          if delivery.waking then
            some
              ((delivery.append signal).start thread
                (.waking delivery.pushed.length))
          else some (delivery.append signal)
      | some _ => none
  | .wake thread =>
      match delivery.errand? thread with
      | some (.waking position) =>
          some
            { delivery.finish thread with
                woken := delivery.woken ++ [position] }
      | _ => none
  | .ask thread =>
      match delivery.errand? thread with
      | none => some (delivery.start thread .polling)
      | some _ => none
  | .poll thread =>
      match delivery.errand? thread with
      | some .polling => some (delivery.drain.finish thread)
      | _ => none
  | .look thread =>
      match delivery.errand? thread with
      | none => some delivery
      | some _ => none

/-- All turns of a schedule, if each is allowed when it comes. -/
def run (delivery : Delivery) : List Turn → Option Delivery
  | [] => some delivery
  | turn :: rest => (delivery.step turn).bind fun after => after.run rest

theorem run_append (delivery : Delivery) (left right : List Turn) :
    delivery.run (left ++ right) =
      (delivery.run left).bind fun after => after.run right := by
  induction left generalizing delivery with
  | nil => simp [run]
  | cons turn rest inductionHypothesis =>
      simp only [List.cons_append, run]
      cases delivery.step turn with
      | none => rfl
      | some after => simpa using inductionHypothesis after

/-- The signals that polls returned, in the order they returned them. -/
def returned (delivery : Delivery) : List Signal :=
  delivery.polled.flatten

/-- What a thread says in its `index`-th message. -/
def label (thread index : Nat) : String :=
  toString thread ++ "-" ++ toString index

/-- The signal that a thread emits as its `index`-th. -/
def signalOf (thread index : Nat) : Signal :=
  { category := "INFO"
    origin := ⟨"", "", 0⟩
    message := (Formatter.text (label thread index)).bounded messageSize }

/-- All threads take turns to emit their signals. -/
def rounds (threads count : Nat) : List Turn :=
  (List.range count).flatMap fun index =>
    (List.range threads).map fun thread =>
      .push thread (signalOf thread index)

/-- All threads emit their signals, and then one more polls. -/
def turns (threads count : Nat) : List Turn :=
  rounds threads count ++ [.ask threads, .poll threads]

/-- The messages that arrive when several threads emit at once, sorted by
their bytes. -/
def messages (threads count : Nat) : List String :=
  match (fresh false).run (turns threads count) with
  | some delivery =>
      (delivery.returned.map Signal.message).mergeSort byteLe
  | none => []

end Delivery

end SignalHub
