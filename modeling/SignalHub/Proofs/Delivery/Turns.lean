import Mathlib.Data.List.Induction
import SignalHub.Delivery

/-!
# Turns and their history

What a single turn can do, and what a schedule says about the state that it
leads to: which signals were pushed, by whom and in which order, how often
somebody polled, and whose call of the waker is still to come.
-/

namespace SignalHub

namespace Turn

/-- The signal that a turn pushes, with the thread that pushes it. -/
def push? : Turn → Option (Nat × Signal)
  | .push thread signal => some (thread, signal)
  | _ => none

def polls : Turn → Bool
  | .poll _ => true
  | _ => false

def wakes : Turn → Bool
  | .wake _ => true
  | _ => false

end Turn

/-- The signals that a schedule pushes, each with its thread. -/
def pushes (schedule : List Turn) : List (Nat × Signal) :=
  schedule.filterMap Turn.push?

/-- The signals that one thread pushes, in this thread's own order. -/
def emitted (schedule : List Turn) (thread : Nat) : List Signal :=
  schedule.filterMap fun
    | .push other signal => if other = thread then some signal else none
    | _ => none

theorem emitted_eq_pushes (schedule : List Turn) (thread : Nat) :
    emitted schedule thread =
      ((pushes schedule).filter (·.1 == thread)).map Prod.snd := by
  induction schedule with
  | nil => rfl
  | cons turn rest inductionHypothesis =>
      simp only [emitted, pushes] at inductionHypothesis ⊢
      cases turn with
      | push other signal =>
          by_cases same : other = thread
          · simp [Turn.push?, same, inductionHypothesis]
          · simp [Turn.push?, same, inductionHypothesis]
      | _ =>
          simpa [List.filterMap_cons, Turn.push?] using inductionHypothesis

namespace Delivery

/-! ## One turn -/

/-- What a turn requires and what it leaves behind. -/
inductive Takes (delivery : Delivery) : Turn → Delivery → Prop where
  | push {thread : Nat} {signal : Signal}
      (ready : delivery.errand? thread = none)
      (silent : delivery.waking = false) :
      Takes delivery (.push thread signal) (delivery.append signal)
  | pushOwing {thread : Nat} {signal : Signal}
      (ready : delivery.errand? thread = none)
      (waking : delivery.waking = true) :
      Takes delivery (.push thread signal)
        ((delivery.append signal).start thread
          (.waking delivery.pushed.length))
  | wake {thread position : Nat}
      (owing : delivery.errand? thread = some (.waking position)) :
      Takes delivery (.wake thread)
        { delivery.finish thread with woken := delivery.woken ++ [position] }
  | ask {thread : Nat} (ready : delivery.errand? thread = none) :
      Takes delivery (.ask thread) (delivery.start thread .polling)
  | poll {thread : Nat}
      (asked : delivery.errand? thread = some .polling) :
      Takes delivery (.poll thread) (delivery.drain.finish thread)
  | look {thread : Nat} (ready : delivery.errand? thread = none) :
      Takes delivery (.look thread) delivery

theorem takes_of_step
    {delivery after : Delivery} {turn : Turn}
    (taken : delivery.step turn = some after) :
    delivery.Takes turn after := by
  cases turn with
  | push thread signal =>
      simp only [step] at taken
      cases ready : delivery.errand? thread with
      | some errand =>
          rw [ready] at taken
          cases taken
      | none =>
          rw [ready] at taken
          simp only at taken
          split at taken
          · cases taken
            exact .pushOwing ready ‹_›
          · cases taken
            exact .push ready (by simpa using ‹¬delivery.waking = true›)
  | wake thread =>
      simp only [step] at taken
      split at taken
      · cases taken
        exact .wake ‹_›
      · cases taken
  | ask thread =>
      simp only [step] at taken
      split at taken
      · cases taken
        exact .ask ‹_›
      · cases taken
  | poll thread =>
      simp only [step] at taken
      split at taken
      · cases taken
        exact .poll ‹_›
      · cases taken
  | look thread =>
      simp only [step] at taken
      split at taken
      · cases taken
        exact .look ‹_›
      · cases taken

theorem run_concat
    (delivery : Delivery) (schedule : List Turn) (turn : Turn) :
    delivery.run (schedule ++ [turn]) =
      (delivery.run schedule).bind fun after => after.step turn := by
  rw [run_append]
  congr
  funext after
  rw [run]
  cases after.step turn <;> rfl

/-- A run of one more turn is a run, and that turn. -/
theorem takes_of_run_concat
    {first delivery : Delivery} {schedule : List Turn} {turn : Turn}
    (ran : first.run (schedule ++ [turn]) = some delivery) :
    ∃ before, first.run schedule = some before ∧ before.Takes turn delivery := by
  rw [run_concat] at ran
  obtain ⟨before, arrives, taken⟩ := Option.bind_eq_some_iff.mp ran
  exact ⟨before, arrives, takes_of_step taken⟩

/-! ## The history of a run -/

/-- The state holds what the schedule pushed, in order, and nothing else. -/
structure History
    (waking : Bool) (schedule : List Turn) (delivery : Delivery) : Prop where
  waking : delivery.waking = waking
  pushed : delivery.pushed = (pushes schedule).map Prod.snd
  kept : delivery.returned ++ delivery.waiting = delivery.pushed
  polled : delivery.polled.length = schedule.countP Turn.polls
  woken : delivery.woken.length = schedule.countP Turn.wakes

theorem history_fresh (waking : Bool) : (fresh waking).History waking [] := by
  constructor <;> rfl

/-- Only a push adds to what is kept, and only a poll moves it. -/
theorem History.step
    {waking : Bool} {schedule : List Turn} {delivery after : Delivery}
    {turn : Turn} (history : delivery.History waking schedule)
    (taken : delivery.Takes turn after) :
    after.History waking (schedule ++ [turn]) := by
  obtain ⟨sameWaking, pushed, kept, polled, woken⟩ := history
  constructor
  · cases taken <;> exact sameWaking
  · cases taken <;>
      simp [pushes, Turn.push?, append, start, finish, drain, pushed]
  · rw [returned] at kept
    cases taken <;>
      simp [returned, append, start, finish, drain, ← List.append_assoc, kept]
  · cases taken <;>
      simp [Turn.polls, append, start, finish, drain, polled]
  · cases taken <;>
      simp [Turn.wakes, append, start, finish, drain, woken]

theorem history_of_run
    {waking : Bool} {schedule : List Turn} {delivery : Delivery}
    (ran : (fresh waking).run schedule = some delivery) :
    delivery.History waking schedule := by
  induction schedule using List.reverseRecOn generalizing delivery with
  | nil =>
      cases ran
      exact history_fresh waking
  | append_singleton earlier turn inductionHypothesis =>
      obtain ⟨before, arrives, taken⟩ := takes_of_run_concat ran
      exact (inductionHypothesis arrives).step taken

/-- A poll returns all that was pushed by then. -/
theorem returned_of_run_poll
    {waking : Bool} {schedule : List Turn} {poller : Nat}
    {delivery : Delivery}
    (ran : (fresh waking).run (schedule ++ [.poll poller]) = some delivery) :
    delivery.waiting = [] ∧
      delivery.returned = (pushes schedule).map Prod.snd := by
  have history := history_of_run ran
  have empty : delivery.waiting = [] := by
    obtain ⟨before, _, taken⟩ := takes_of_run_concat ran
    cases taken
    rfl
  have same : pushes (schedule ++ [.poll poller]) = pushes schedule := by
    simp [pushes, Turn.push?]
  have whole := history.kept.trans history.pushed
  rw [empty, List.append_nil, same] at whole
  exact ⟨empty, whole⟩

end Delivery

end SignalHub
