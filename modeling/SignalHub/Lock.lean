/-!
# Locks

The shared hub sits behind a lock for readers and one writer; every output
channel and every buffering sink has a mutex.  `Locks.replay` runs a list of
lock steps, while writers of other threads come and go, and gives up at the
first step that would wait for its own thread.
-/

namespace SignalHub

/-- Which of the two hubs of a process: the one shared by all, or one that the
caller owns. -/
inductive Scope where
  | shared
  | own
deriving DecidableEq, Repr

inductive Mutex where
  | channel (scope : Scope)
  | buffer (scope : Scope)
deriving DecidableEq, Repr

/-- A step on the locks.  `share` is a reader that may already be one; `read`
is a reader that lets a queued writer go first. -/
inductive LockStep where
  | share
  | read
  | unshare
  | claim
  | unclaim
  | hold (mutex : Mutex)
  | letGo (mutex : Mutex)
deriving DecidableEq, Repr

structure Locks where
  readers : Nat
  writing : Bool
  writerQueued : Bool
  held : List Mutex
deriving DecidableEq, Repr

namespace Locks

/-- Nothing is held. -/
def free : Locks :=
  ⟨0, false, false, []⟩

/-- One step, if it need not wait. -/
def step (locks : Locks) : LockStep → Option Locks
  | .share =>
      if locks.writing then none
      else some { locks with readers := locks.readers + 1 }
  | .read =>
      if locks.writing || locks.writerQueued then none
      else some { locks with readers := locks.readers + 1 }
  | .unshare =>
      if locks.readers = 0 then none
      else some { locks with readers := locks.readers - 1 }
  | .claim =>
      if locks.writing || 0 < locks.readers then none
      else some { locks with writing := true }
  | .unclaim =>
      if locks.writing then some { locks with writing := false } else none
  | .hold mutex =>
      if mutex ∈ locks.held then none
      else some { locks with held := mutex :: locks.held }
  | .letGo mutex =>
      if mutex ∈ locks.held then
        some { locks with held := locks.held.erase mutex }
      else none

/-- A writer of another thread comes to wait, or waits no more. -/
def among (locks : Locks) (queued : Bool) : Locks :=
  { locks with writerQueued := queued }

/-- All steps in order, unless one is stuck.  Before each step `queued` says
whether a writer of another thread waits. -/
def replay (queued : Nat → Bool) (locks : Locks) :
    List LockStep → Option Locks
  | [] => some locks
  | first :: rest =>
      ((locks.among (queued 0)).step first).bind fun after =>
        after.replay (fun index => queued (index + 1)) rest

theorem replay_append
    (queued : Nat → Bool) (locks : Locks) (left right : List LockStep) :
    locks.replay queued (left ++ right) =
      (locks.replay queued left).bind fun after =>
        after.replay (fun index => queued (index + left.length)) right := by
  induction left generalizing queued locks with
  | nil => rfl
  | cons first rest inductionHypothesis =>
      simp only [List.cons_append, replay]
      cases (locks.among (queued 0)).step first with
      | none => rfl
      | some after =>
          simp only [Option.bind_some, inductionHypothesis,
            List.length_cons, Nat.add_assoc]

end Locks

end SignalHub
