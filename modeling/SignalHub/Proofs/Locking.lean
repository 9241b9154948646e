import SignalHub.Proofs.Acting

/-!
# Calls that never wait

While a function of the host runs from inside of a call, the thread holds no
mutex, and the lock of the shared hub as a reader at most.  So whatever that
function calls goes through, also while writers of other threads are queued.
-/

namespace SignalHub

open Output Text

/-- The thread neither holds a mutex nor writes. -/
structure Locks.Open (locks : Locks) : Prop where
  unwritten : locks.writing = false
  released : locks.held = []

theorem Locks.replay_singleton
    (queued : Nat → Bool) (locks : Locks) (step : LockStep) :
    locks.replay queued [step] = (locks.among (queued 0)).step step := by
  rw [replay]
  cases (locks.among (queued 0)).step step <;> rfl

/-- Whether an event is a call of a filter, a formatting, a sink, a waker or a
status printer, or something that such a function says of its own calls. -/
def Event.isCallback : Event → Bool
  | .transfer _ | .shown _ | .record _ | .lock _ => false
  | _ => true

namespace Trace

/-- No step on the locks waits, however writers of other threads come and go;
afterwards there are so many readers more, and nothing else is held. -/
def Passes (kept : Nat) (trace : Trace) : Prop :=
  ∀ (queued : Nat → Bool) (locks : Locks), locks.Open →
    ∃ last, locks.replay queued trace.lockSteps = some last ∧
      last.Open ∧ last.readers = locks.readers + kept

/-- A trace that passes, with nothing held but readers at each callback. -/
structure Unhindered (kept : Nat) (trace : Trace) : Prop where
  passes : trace.Passes kept
  callbacks : ∀ (before : Trace) (event : Event) (after : Trace),
    trace = before ++ event :: after → event.isCallback = true →
      ∃ readers, before.Passes readers

section Passes

variable {kept more : Nat} {left right trace : Trace}

theorem passes_of_unlocked
    (unlocked : trace.lockSteps = []) : trace.Passes 0 := by
  intro queued locks isOpen
  rw [unlocked]
  exact ⟨locks, rfl, isOpen, rfl⟩

theorem Passes.append
    (first : left.Passes kept) (second : right.Passes more) :
    Passes (kept + more) (left ++ right) := by
  intro queued locks isOpen
  obtain ⟨middle, early, isOpenThen, readers⟩ := first queued locks isOpen
  obtain ⟨last, late, isOpenLast, readersThen⟩ :=
    second (fun index => queued (index + left.lockSteps.length)) middle
      isOpenThen
  refine ⟨last, ?_, isOpenLast, ?_⟩
  · rw [lockSteps_append, Locks.replay_append, early]
    exact late
  · rw [readersThen, readers, Nat.add_assoc]

theorem passes_share : Passes 1 [.lock .share] := by
  intro queued locks isOpen
  have shared : ¬ (locks.among (queued 0)).writing = true := by
    rw [Locks.among, isOpen.unwritten]
    exact Bool.false_ne_true
  refine
    ⟨{ locks.among (queued 0) with readers := locks.readers + 1 }, ?_,
      ⟨isOpen.unwritten, isOpen.released⟩, rfl⟩
  exact (Locks.replay_singleton queued locks .share).trans (if_neg shared)

theorem Passes.unshare
    (inside : trace.Passes (kept + 1)) :
    Passes kept (trace ++ [.lock .unshare]) := by
  intro queued locks isOpen
  obtain ⟨middle, early, isOpenThen, readers⟩ := inside queued locks isOpen
  let meanwhile := middle.among (queued (0 + trace.lockSteps.length))
  have present : ¬ middle.readers = 0 := by omega
  refine
    ⟨{ meanwhile with readers := middle.readers - 1 }, ?_,
      ⟨isOpenThen.unwritten, isOpenThen.released⟩, ?_⟩
  · rw [lockSteps_append, Locks.replay_append, early, Option.bind_some]
    exact (Locks.replay_singleton _ middle .unshare).trans (if_neg present)
  · rw [readers, ← Nat.add_assoc]
    exact Nat.add_sub_cancel (locks.readers + kept) 1

theorem Passes.reading
    (inside : trace.Passes kept) (scope : Scope) :
    Passes kept (Trace.reading scope trace) := by
  cases scope with
  | own => exact inside
  | shared =>
      have entered : Passes (kept + 1) ([.lock .share] ++ trace) := by
        rw [Nat.add_comm]
        exact passes_share.append inside
      exact entered.unshare

theorem passes_holding
    (mutex : Mutex) (unlocked : trace.lockSteps = []) :
    Passes 0 (holding mutex trace) := by
  have steps :
      (holding mutex trace).lockSteps = [.hold mutex, .letGo mutex] := by
    rw [holding, lockSteps_append]
    change .hold mutex :: trace.lockSteps ++ [.letGo mutex] = _
    rw [unlocked]
    rfl
  intro queued locks isOpen
  rw [steps]
  refine
    ⟨locks.among (queued 1), ?_,
      ⟨isOpen.unwritten, isOpen.released⟩, rfl⟩
  simp [Locks.replay, Locks.step, Locks.among, isOpen.released]

end Passes

namespace Unhindered

variable {kept more : Nat} {left right trace : Trace}

theorem of_unlocked
    (unlocked : trace.lockSteps = []) : trace.Unhindered 0 := by
  constructor
  · exact passes_of_unlocked unlocked
  · intro before event after split _
    rw [split, lockSteps_append] at unlocked
    exact ⟨0, passes_of_unlocked (List.append_eq_nil_iff.mp unlocked).1⟩

theorem of_quiet
    (passes : trace.Passes kept)
    (quiet : ∀ event ∈ trace, event.isCallback = false) :
    trace.Unhindered kept := by
  refine ⟨passes, ?_⟩
  intro before event after split calls
  have member : event ∈ trace := by
    rw [split]
    exact List.mem_append_right before List.mem_cons_self
  rw [quiet event member] at calls
  cases calls

theorem append
    (first : left.Unhindered kept) (second : right.Unhindered more) :
    Unhindered (kept + more) (left ++ right) := by
  constructor
  · exact first.passes.append second.passes
  · intro before event after split calls
    rcases List.append_eq_append_iff.mp split with
      ⟨middle, late, rest⟩ | ⟨middle, early, rest⟩
    · obtain ⟨readers, passes⟩ := second.callbacks middle event after rest calls
      rw [late]
      exact ⟨kept + readers, first.passes.append passes⟩
    · cases middle with
      | nil =>
          rw [List.append_nil] at early
          rw [← early]
          exact ⟨kept, first.passes⟩
      | cons head middle =>
          cases rest
          exact first.callbacks before event middle early calls

theorem share : Unhindered 1 [.lock .share] := by
  apply of_quiet passes_share
  intro event member
  cases List.mem_singleton.mp member
  rfl

theorem reading
    (inside : trace.Unhindered kept) (scope : Scope) :
    Unhindered kept (Trace.reading scope trace) := by
  cases scope with
  | own => exact inside
  | shared =>
      refine ⟨inside.passes.reading .shared, ?_⟩
      intro before event after split calls
      -- The reader leaves after the last callback.
      have entered := share.append inside
      rcases List.eq_nil_or_concat after with rfl | ⟨rest, last, rfl⟩
      · have ends := List.append_inj_right' split rfl
        cases ends
        cases calls
      · rw [List.concat_eq_append, ← List.cons_append,
          ← List.append_assoc] at split
        have inner := List.append_inj_left' split rfl
        exact entered.callbacks before event rest inner calls

theorem holding
    (mutex : Mutex) (unlocked : trace.lockSteps = [])
    (quiet : ∀ event ∈ trace, event.isCallback = false) :
    Unhindered 0 (Trace.holding mutex trace) := by
  apply of_quiet (passes_holding mutex unlocked)
  intro event member
  rw [Trace.holding, List.mem_append, List.mem_cons,
    List.mem_singleton] at member
  rcases member with (rfl | member) | rfl
  · rfl
  · exact quiet event member
  · rfl

end Unhindered

end Trace

end SignalHub
