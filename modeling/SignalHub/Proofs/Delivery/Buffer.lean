import SignalHub.Proofs.Acting
import SignalHub.Proofs.Delivery.Turns

/-!
# The buffer of a hub

A hub whose sink is a buffer pushes what it receives, calls the waker once the
buffer is free again, and hands out all that waits to whoever polls.  These are
the turns of a thread, and an emission with all that functions of the host do
from inside of it is a schedule of them.
-/

namespace SignalHub

open Output Text

namespace Delivery

/-! ## The turns of one call -/

/-- A signal is pushed, and then the waker is called if there is one. -/
def logging (waking : Bool) (thread : Nat) (signal : Signal) : List Turn :=
  .push thread signal :: if waking then [.wake thread] else []

/-- All that waits is asked for and taken. -/
def polling (thread : Nat) : List Turn :=
  [.ask thread, .poll thread]

theorem errand?_start
    (delivery : Delivery) (thread : Nat) (errand : Errand) :
    (delivery.start thread errand).errand? thread = some errand := by
  simp [errand?, start]

theorem errand?_finish (delivery : Delivery) (thread : Nat) :
    (delivery.finish thread).errand? thread = none := by
  simp [errand?, finish]

/-- What a ready thread did by turns of its own, after which it is ready
again. -/
structure Does
    (thread : Nat) (before after : Delivery) (signals : List Signal)
    (polls : List (List Signal)) : Prop where
  turns : ∃ schedule,
    before.run schedule = some after ∧
      pushes schedule = signals.map fun signal => (thread, signal)
  polled : after.polled = before.polled ++ polls
  waking : after.waking = before.waking
  ready : after.errand? thread = none

section Does

variable {thread : Nat} {before : Delivery}

theorem Does.refl (ready : before.errand? thread = none) :
    Does thread before before [] [] := by
  constructor
  · exact ⟨[], rfl, rfl⟩
  · exact (List.append_nil _).symm
  · rfl
  · exact ready

theorem Does.trans
    {middle after : Delivery} {early late : List Signal}
    {left right : List (List Signal)}
    (begins : Does thread before middle early left)
    (continues : Does thread middle after late right) :
    Does thread before after (early ++ late) (left ++ right) := by
  obtain ⟨first, arrives, pushed⟩ := begins.turns
  obtain ⟨second, goesOn, pushedThen⟩ := continues.turns
  constructor
  · refine ⟨first ++ second, ?_, ?_⟩
    · rw [run_append, arrives, Option.bind_some, goesOn]
    · rw [pushes, List.filterMap_append, List.map_append]
      exact congrArg₂ (· ++ ·) pushed pushedThen
  · rw [continues.polled, begins.polled, List.append_assoc]
  · exact continues.waking.trans begins.waking
  · exact continues.ready

theorem does_logging
    (ready : before.errand? thread = none) (signal : Signal) :
    ∃ after,
      before.run (logging before.waking thread signal) = some after ∧
        Does thread before after [signal] [] ∧
        after.waiting = before.waiting ++ [signal] := by
  have ran :
      ∃ after,
        before.run (logging before.waking thread signal) = some after ∧
          after.polled = before.polled ∧
          after.waking = before.waking ∧
          after.errand? thread = none ∧
          after.waiting = before.waiting ++ [signal] := by
    cases waking : before.waking with
    | false =>
        refine ⟨before.append signal, ?_, rfl, waking, ready, rfl⟩
        simp [logging, run, step, ready, waking]
    | true =>
        let pushed :=
          (before.append signal).start thread
            (.waking before.pushed.length)
        have owing := errand?_start (before.append signal) thread
          (.waking before.pushed.length)
        refine
          ⟨{ pushed.finish thread with
              woken := pushed.woken ++ [before.pushed.length] },
            ?_, rfl, waking, errand?_finish pushed thread, rfl⟩
        simp [logging, run, step, ready, waking, owing, pushed]
  obtain ⟨after, arrives, polled, waking, still, waiting⟩ := ran
  refine ⟨after, arrives, ?_, waiting⟩
  constructor
  · refine ⟨logging before.waking thread signal, arrives, ?_⟩
    rw [logging]
    split <;> rfl
  · rw [polled, List.append_nil]
  · exact waking
  · exact still

theorem does_polling (ready : before.errand? thread = none) :
    ∃ after,
      before.run (polling thread) = some after ∧
        Does thread before after [] [before.waiting] ∧
        after.waiting = [] := by
  let asked := before.start thread .polling
  have owing := errand?_start before thread .polling
  have arrives :
      before.run (polling thread) = some (asked.drain.finish thread) := by
    simp [polling, run, step, ready, owing, asked]
  refine ⟨asked.drain.finish thread, arrives, ?_, rfl⟩
  constructor
  · exact ⟨polling thread, arrives, rfl⟩
  · rfl
  · rfl
  · exact errand?_finish asked.drain thread

end Does

end Delivery

namespace Host

/-! ## The hub's side -/

/-- The sink of a hub is a buffer that holds what waits in a delivery. -/
structure Buffers
    (host : Host) (scope : Scope) (waker : Option Waker)
    (delivery : Delivery) : Prop where
  sink :
    (host.hub scope).sink = some (.buffering waker delivery.waiting)
  waking : delivery.waking = waker.isSome

section Buffers

variable {host : Host} {scope : Scope} {waker : Option Waker}
  {delivery after : Delivery} {thread : Nat}

/-- A received signal is pushed, and only then, with the buffer free, the
waker runs. -/
theorem Buffers.receive
    (buffers : host.Buffers scope waker delivery)
    (ready : delivery.errand? thread = none) (signal : Signal) :
    ∃ after pushed,
      delivery.run (Delivery.logging waker.isSome thread signal) =
          some after ∧
        Delivery.Does thread delivery after [signal] [] ∧
        pushed.Buffers scope waker after ∧
        host.receive scope (.buffering waker delivery.waiting) signal =
          (pushed,
            Trace.holding (.buffer scope) [] ++
              if waker.isSome then pushed.wake else []) := by
  obtain ⟨after, arrives, does, waiting⟩ :=
    Delivery.does_logging ready signal
  rw [buffers.waking] at arrives
  refine
    ⟨after, (host.receive scope (.buffering waker delivery.waiting) signal).1,
      arrives, does, ?_, ?_⟩
  · constructor
    · rw [waiting]
      simp [Host.receive, buffer]
    · exact does.waking.trans buffers.waking
  · cases waker <;> rfl

/-- Polling takes all that waits. -/
theorem Buffers.pollBuffer
    (buffers : host.Buffers scope waker delivery)
    (ready : delivery.errand? thread = none) :
    ∃ after emptied,
      delivery.run (Delivery.polling thread) = some after ∧
        Delivery.Does thread delivery after [] [delivery.waiting] ∧
        emptied.Buffers scope waker after ∧
        host.pollBuffer scope =
          (emptied, Trace.holding (.buffer scope) [],
            some delivery.waiting) := by
  obtain ⟨after, arrives, does, waiting⟩ := Delivery.does_polling ready
  have polled :
      host.pollBuffer scope =
        (host.setSink scope (some (.buffering waker [])),
          Trace.holding (.buffer scope) [], some delivery.waiting) := by
    rw [Host.pollBuffer, buffers.sink]
  refine ⟨after, _, arrives, does, ?_, polled⟩
  constructor
  · rw [waiting, hub_setSink]
  · exact does.waking.trans buffers.waking

end Buffers

/-! ## Whole emissions -/

/-- A relation of acts to the turns of one thread. -/
theorem respected_schedule (thread : Nat) (waker : Option Waker) :
    Respected .shared fun host after trace =>
      ∀ delivery : Delivery,
        host.Buffers .shared waker delivery →
          delivery.errand? thread = none →
            ∃ later : Delivery,
              Delivery.Does thread delivery later trace.deliveries
                  trace.polls ∧
                after.Buffers .shared waker later := by
  constructor
  · intro host trace asks delivery buffers ready
    refine ⟨delivery, ?_, buffers⟩
    rw [Trace.deliveries_of_asking asks,
      Trace.polls_of_conveyance (Trace.conveyance_of_asking asks)]
    exact Delivery.Does.refl ready
  · intro first second third early late begins continues delivery buffers ready
    obtain ⟨middle, does, buffersThen⟩ := begins delivery buffers ready
    obtain ⟨later, doesThen, buffersLast⟩ :=
      continues middle buffersThen does.ready
    refine ⟨later, ?_, buffersLast⟩
    rw [Trace.deliveries_append, Trace.polls_append]
    exact does.trans doesThen
  · intro host script delivery buffers ready
    exact ⟨delivery, Delivery.Does.refl ready, buffers.sink, buffers.waking⟩
  · intro within host after trace inside
    simpa only [Trace.deliveries_reading, Trace.polls_reading] using inside
  · intro host within sink here sinkHere signal delivery buffers ready
    have shared : within = .shared := here.elim id id
    subst shared
    -- The sink that was handed the signal is the buffer that is watched.
    have same : sink = .buffering waker delivery.waiting :=
      Option.some.inj (sinkHere.symm.trans buffers.sink)
    subst same
    obtain ⟨later, pushed, _, does, buffersThen, received⟩ :=
      buffers.receive ready signal
    have conveyed :
        (Event.delivery (.buffering waker delivery.waiting) signal ::
            (host.receive .shared (.buffering waker delivery.waiting)
              signal).2).all Trace.isConveyance :=
      host.conveyance_receive .shared (.buffering waker delivery.waiting)
        signal
    have delivered :
        Trace.deliveries
            (.delivery (.buffering waker delivery.waiting) signal ::
              (host.receive .shared (.buffering waker delivery.waiting)
                signal).2) = [signal] :=
      congrArg (signal :: ·)
        (host.deliveries_receive .shared
          (.buffering waker delivery.waiting) signal)
    refine ⟨later, ?_, ?_⟩
    · rw [delivered, Trace.polls_of_conveyance conveyed]
      exact does
    · rw [received]
      exact buffersThen
  · intro host text delivery buffers ready
    obtain ⟨channel, changed, _⟩ := host.hub_printAction text
    refine ⟨delivery, ?_, ?_, buffers.waking⟩
    · rw [deliveries_printAction, polls_printAction]
      exact Delivery.Does.refl ready
    · rw [changed]
      exact buffers.sink
  · intro host delivery buffers ready
    obtain ⟨later, emptied, _, does, buffersThen, polled⟩ :=
      buffers.pollBuffer ready
    refine ⟨later, ?_, ?_⟩
    · rw [pollAction, polled]
      exact does
    · rw [pollAction, polled]
      exact buffersThen

/-- What a hub does with its buffer is what a ready thread can do by turns of
its own. -/
structure TakesTurns
    (host : Host) (scope : Scope) (waker : Option Waker)
    (delivery : Delivery) (thread : Nat) : Prop where
  /-- A received signal is pushed, and only then, with the buffer free, the
  waker runs. -/
  receive : ∀ signal, ∃ after pushed,
    delivery.run (Delivery.logging waker.isSome thread signal) =
        some after ∧
      pushed.Buffers scope waker after ∧
      host.receive scope (.buffering waker delivery.waiting) signal =
        (pushed,
          Trace.holding (.buffer scope) [] ++
            if waker.isSome then pushed.wake else [])
  poll : ∃ after emptied,
    delivery.run (Delivery.polling thread) = some after ∧
      after.polled = delivery.polled ++ [delivery.waiting] ∧
      emptied.Buffers scope waker after ∧
      host.pollBuffer scope =
        (emptied, Trace.holding (.buffer scope) [], some delivery.waiting)
  /-- An emission, with all that the waker and other functions of the host do
  from inside of it, is a schedule. -/
  emit : scope = .shared → ∀ category origin message, ∃ schedule later,
    delivery.run schedule = some later ∧
      pushes schedule =
        ((host.emit scope category origin message).2.deliveries.map
          fun signal => (thread, signal)) ∧
      later.polled =
        delivery.polled ++
          (host.emit scope category origin message).2.polls ∧
      (host.emit scope category origin message).1.Buffers scope waker later

theorem Buffers.takesTurns
    {host : Host} {scope : Scope} {waker : Option Waker}
    {delivery : Delivery} {thread : Nat}
    (buffers : host.Buffers scope waker delivery)
    (ready : delivery.errand? thread = none) :
    host.TakesTurns scope waker delivery thread := by
  constructor
  · intro signal
    obtain ⟨after, pushed, arrives, _, buffersThen, received⟩ :=
      buffers.receive ready signal
    exact ⟨after, pushed, arrives, buffersThen, received⟩
  · obtain ⟨after, emptied, arrives, does, buffersThen, polled⟩ :=
      buffers.pollBuffer ready
    exact ⟨after, emptied, arrives, does.polled, buffersThen, polled⟩
  · intro shared category origin message
    subst shared
    obtain ⟨later, does, buffersThen⟩ :=
      (respected_schedule thread waker).emit (Or.inl rfl) host category
        origin message delivery buffers ready
    obtain ⟨schedule, arrives, pushed⟩ := does.turns
    exact
      ⟨schedule, later, arrives, pushed, does.polled, buffersThen⟩

end Host

end SignalHub
