import Mathlib.Data.List.Nodup
import SignalHub.Proofs.Delivery.Buffer

/-!
# No wake-up is lost

A thread pushes its signal first and calls the waker then.  So whoever polls
after the call of the waker for a signal gets this signal, unless somebody else
already has; and a signal that still waits has its call still to come, or
nobody polled since.
-/

namespace SignalHub

namespace Delivery

/-! ## Whose call is still to come -/

/-- The thread pushed the signal at a position and has yet to call the waker
for it. -/
def Owes (delivery : Delivery) (thread position : Nat) : Prop :=
  delivery.errand? thread = some (.waking position)

section Owing

variable {delivery : Delivery} {thread other position : Nat}

theorem errand?_start_of_ne
    (different : other ≠ thread) (errand : Errand) :
    (delivery.start thread errand).errand? other =
      delivery.errand? other := by
  have apart : (thread == other) = false :=
    beq_false_of_ne (Ne.symm different)
  simp [errand?, start, apart]

theorem errand?_finish_of_ne (different : other ≠ thread) :
    (delivery.finish thread).errand? other = delivery.errand? other := by
  have either : ∀ entry : Nat × Errand,
      (entry.1 != thread && entry.1 == other) = (entry.1 == other) := by
    intro entry
    rw [Bool.eq_iff_iff]
    simp
    omega
  rw [errand?, finish, List.find?_filter]
  simp only [Bool.decide_and, Bool.decide_eq_true, either]
  rfl

theorem owes_start_waking
    (ready : delivery.errand? thread = none) (pushed : Nat) :
    (delivery.start thread (.waking pushed)).Owes other position ↔
      other = thread ∧ position = pushed ∨
        delivery.Owes other position := by
  by_cases same : other = thread
  · rw [same, Owes, Owes, errand?_start, ready]
    simp [eq_comm]
  · rw [Owes, Owes, errand?_start_of_ne same]
    simp [same]

theorem owes_start_polling
    (ready : delivery.errand? thread = none) :
    (delivery.start thread .polling).Owes other position ↔
      delivery.Owes other position := by
  by_cases same : other = thread
  · rw [same, Owes, Owes, errand?_start, ready]
    simp
  · rw [Owes, Owes, errand?_start_of_ne same]

theorem owes_finish :
    (delivery.finish thread).Owes other position ↔
      other ≠ thread ∧ delivery.Owes other position := by
  by_cases same : other = thread
  · rw [same, Owes, errand?_finish]
    simp
  · rw [Owes, Owes, errand?_finish_of_ne same]
    simp [same]

end Owing

/-! ## One call for each signal -/

/-- No signal had the waker called for it twice, and each has it called or
still to come, by the thread that pushed it. -/
structure WokenOnce (schedule : List Turn) (delivery : Delivery) : Prop where
  once : delivery.woken.Nodup
  turns : delivery.woken.length = schedule.countP Turn.wakes
  pushed : ∀ position ∈ delivery.woken, position < delivery.pushed.length
  owing : ∀ thread position, delivery.Owes thread position →
    position ∉ delivery.woken ∧
      ∃ signal, (pushes schedule)[position]? = some (thread, signal)
  all : ∀ position < delivery.pushed.length,
    position ∈ delivery.woken ∨ ∃ thread, delivery.Owes thread position

theorem wokenOnce_fresh : (fresh true).WokenOnce [] := by
  constructor
  · exact List.nodup_nil
  · rfl
  · exact List.forall_mem_nil _
  · intro thread position owing
    cases owing
  · intro position within
    cases within

theorem getElem?_pushes_append
    {schedule : List Turn} {position : Nat} {entry : Nat × Signal}
    (here : (pushes schedule)[position]? = some entry) (more : List Turn) :
    (pushes (schedule ++ more))[position]? = some entry := by
  obtain ⟨within, _⟩ := List.getElem?_eq_some_iff.mp here
  have split : pushes (schedule ++ more) = pushes schedule ++ pushes more :=
    List.filterMap_append
  rw [split, List.getElem?_append_left within]
  exact here

section Step

variable {schedule : List Turn} {delivery after : Delivery} {turn : Turn}

/-- A turn that neither pushes nor wakes changes nothing of it. -/
theorem WokenOnce.of_same
    (woken : delivery.WokenOnce schedule)
    (turns : after.woken.length = (schedule ++ [turn]).countP Turn.wakes)
    (sameWoken : after.woken = delivery.woken)
    (samePushed : after.pushed = delivery.pushed)
    (sameOwing : ∀ thread position,
      after.Owes thread position ↔ delivery.Owes thread position) :
    after.WokenOnce (schedule ++ [turn]) := by
  constructor
  · rw [sameWoken]
    exact woken.once
  · exact turns
  · rw [sameWoken, samePushed]
    exact woken.pushed
  · intro thread position owing
    obtain ⟨uncalled, signal, here⟩ :=
      woken.owing thread position ((sameOwing thread position).mp owing)
    rw [sameWoken]
    exact ⟨uncalled, signal, getElem?_pushes_append here _⟩
  · simp only [sameWoken, samePushed, sameOwing]
    exact woken.all

theorem WokenOnce.pushOwing
    {thread : Nat} {signal : Signal}
    (woken : delivery.WokenOnce schedule)
    (turns :
      delivery.woken.length =
        (schedule ++ [Turn.push thread signal]).countP Turn.wakes)
    (length : delivery.pushed.length = (pushes schedule).length)
    (ready : delivery.errand? thread = none) :
    ((delivery.append signal).start thread
        (.waking delivery.pushed.length)).WokenOnce
      (schedule ++ [.push thread signal]) := by
  have owes : ∀ other position,
      ((delivery.append signal).start thread
          (.waking delivery.pushed.length)).Owes other position ↔
        other = thread ∧ position = delivery.pushed.length ∨
          delivery.Owes other position :=
    fun other position => owes_start_waking ready _
  have longer :
      (delivery.append signal).pushed.length =
        delivery.pushed.length + 1 := by
    simp [append]
  constructor
  · exact woken.once
  · exact turns
  · intro position member
    have within := woken.pushed position member
    exact Nat.lt_of_lt_of_eq (Nat.lt_succ_of_lt within) longer.symm
  · intro other position owing
    rcases (owes other position).mp owing with ⟨rfl, rfl⟩ | earlier
    · refine ⟨?_, signal, ?_⟩
      · intro member
        exact Nat.lt_irrefl _ (woken.pushed _ member)
      · simp [pushes, Turn.push?, length]
    · obtain ⟨uncalled, pushed, here⟩ := woken.owing other position earlier
      exact ⟨uncalled, pushed, getElem?_pushes_append here _⟩
  · intro position within
    have bound := Nat.lt_of_lt_of_eq within longer
    by_cases newest : position = delivery.pushed.length
    · exact Or.inr ⟨thread, (owes thread position).mpr (Or.inl ⟨rfl, newest⟩)⟩
    · rcases woken.all position (by omega) with called | ⟨other, owing⟩
      · exact Or.inl called
      · exact Or.inr ⟨other, (owes other position).mpr (Or.inr owing)⟩

theorem WokenOnce.wake
    {thread position : Nat}
    (woken : delivery.WokenOnce schedule)
    (turns :
      (delivery.woken ++ [position]).length =
        (schedule ++ [Turn.wake thread]).countP Turn.wakes)
    (length : delivery.pushed.length = (pushes schedule).length)
    (owing : delivery.Owes thread position) :
    WokenOnce (schedule ++ [.wake thread])
      { delivery.finish thread with
          woken := delivery.woken ++ [position] } := by
  obtain ⟨uncalled, signal, here⟩ := woken.owing thread position owing
  obtain ⟨within, _⟩ := List.getElem?_eq_some_iff.mp here
  have owes : ∀ other place,
      Owes
          { delivery.finish thread with
              woken := delivery.woken ++ [position] } other place ↔
        other ≠ thread ∧ delivery.Owes other place :=
    fun other place => owes_finish
  constructor
  · rw [List.nodup_append']
    refine ⟨woken.once, List.nodup_singleton position, ?_⟩
    exact List.disjoint_singleton.mpr uncalled
  · exact turns
  · intro place member
    rcases List.mem_append.mp member with earlier | last
    · exact woken.pushed place earlier
    · rw [List.mem_singleton.mp last]
      exact Nat.lt_of_lt_of_eq within length.symm
  · intro other place still
    obtain ⟨different, owed⟩ := (owes other place).mp still
    obtain ⟨uncalledThen, pushed, there⟩ := woken.owing other place owed
    refine ⟨?_, pushed, getElem?_pushes_append there _⟩
    intro member
    rcases List.mem_append.mp member with earlier | last
    · exact uncalledThen earlier
    · -- One position would be owed by the two threads that pushed it.
      rw [List.mem_singleton.mp last, here] at there
      cases there
      exact different rfl
  · intro place bound
    rcases woken.all place bound with called | ⟨other, owed⟩
    · exact Or.inl (List.mem_append_left _ called)
    · by_cases same : other = thread
      · rw [same] at owed
        have only := owing.symm.trans owed
        cases only
        exact Or.inl (List.mem_append_right _ (List.mem_singleton_self _))
      · exact Or.inr ⟨other, (owes other place).mpr ⟨same, owed⟩⟩

theorem WokenOnce.step
    (woken : delivery.WokenOnce schedule)
    (history : delivery.History true schedule)
    (taken : delivery.Takes turn after) :
    after.WokenOnce (schedule ++ [turn]) := by
  have turns :
      after.woken.length = (schedule ++ [turn]).countP Turn.wakes :=
    (history.step taken).woken
  have length : delivery.pushed.length = (pushes schedule).length := by
    rw [history.pushed, List.length_map]
  cases taken with
  | push ready silent => exact absurd (history.waking.symm.trans silent) nofun
  | pushOwing ready waking => exact woken.pushOwing turns length ready
  | wake owing => exact woken.wake turns length owing
  | ask ready =>
      apply woken.of_same turns rfl rfl
      intro thread position
      exact owes_start_polling ready
  | @poll thread asked =>
      apply woken.of_same turns rfl rfl
      intro other position
      rw [owes_finish]
      refine ⟨And.right, fun owing => ⟨?_, owing⟩⟩
      intro same
      rw [same] at owing
      cases asked.symm.trans owing
  | look ready =>
      apply woken.of_same turns rfl rfl
      intro thread position
      exact Iff.rfl

end Step

theorem wokenOnce_of_run
    {schedule : List Turn} {delivery : Delivery}
    (ran : (fresh true).run schedule = some delivery) :
    delivery.WokenOnce schedule := by
  induction schedule using List.reverseRecOn generalizing delivery with
  | nil =>
      cases ran
      exact wokenOnce_fresh
  | append_singleton earlier turn inductionHypothesis =>
      obtain ⟨before, arrives, taken⟩ := takes_of_run_concat ran
      exact (inductionHypothesis arrives).step (history_of_run arrives) taken

/-- After these turns the thread owes the call for the signal at a position. -/
def OwesAfter (before : List Turn) (thread position : Nat) : Prop :=
  ∃ earlier,
    (fresh true).run before = some earlier ∧ earlier.Owes thread position

/-! ## Polls after the call -/

theorem reaches_of_run_append
    {first delivery : Delivery} {early late : List Turn}
    (ran : first.run (early ++ late) = some delivery) :
    ∃ middle,
      first.run early = some middle ∧ middle.run late = some delivery := by
  rw [run_append] at ran
  exact Option.bind_eq_some_iff.mp ran

/-- The call of the waker that a thread makes between turns: it is for the
signal at a position, which the thread pushed before and which waits or has
been returned.  And any poll that takes the buffer after the call leaves the
signal returned, whether it was asked for after the call or before. -/
structure CallServed
    (before : List Turn) (thread : Nat) (rest : List Turn)
    (position : Nat) (signal : Signal) : Prop where
  pushed : (pushes before)[position]? = some (thread, signal)
  called : ∃ earlier after,
    (fresh true).run before = some earlier ∧
      (earlier.returned ++ earlier.waiting)[position]? = some signal ∧
      (fresh true).run (before ++ [.wake thread]) = some after ∧
      after.woken = earlier.woken ++ [position]
  polled : ∀ during poller last, rest = during ++ .poll poller :: last →
    ∃ later,
      (fresh true).run
          (before ++ .wake thread :: during ++ [.poll poller]) =
        some later ∧
        later.returned[position]? = some signal

section Calls

variable {schedule before rest : List Turn} {delivery : Delivery}
  {thread : Nat}

theorem callServed_of_run
    (ran :
      (fresh true).run (before ++ .wake thread :: rest) = some delivery) :
    ∃ position signal,
      OwesAfter before thread position ∧
        CallServed before thread rest position signal := by
  obtain ⟨earlier, arrives, continues⟩ := reaches_of_run_append ran
  obtain ⟨after, called, _⟩ := Option.bind_eq_some_iff.mp continues
  have woken := wokenOnce_of_run arrives
  have history := history_of_run arrives
  have arrivesThere :
      (fresh true).run (before ++ [.wake thread]) = some after := by
    rw [run_concat, arrives, Option.bind_some, called]
  cases takes_of_step called with
  | @wake _ position owing =>
      obtain ⟨_, signal, here⟩ := woken.owing thread position owing
      refine ⟨position, signal, ⟨earlier, arrives, owing⟩, ?_⟩
      constructor
      · exact here
      · refine ⟨earlier, _, arrives, ?_, arrivesThere, rfl⟩
        rw [history.kept, history.pushed, List.getElem?_map, here]
        rfl
      · intro during poller last split
        have whole :
            before ++ .wake thread :: rest =
              (before ++ .wake thread :: during ++ [.poll poller]) ++ last := by
          rw [split]
          simp
        rw [whole] at ran
        obtain ⟨later, arrivesLater, _⟩ := reaches_of_run_append ran
        have pushed :=
          getElem?_pushes_append here (.wake thread :: during)
        obtain ⟨_, everything⟩ := returned_of_run_poll arrivesLater
        refine ⟨later, arrivesLater, ?_⟩
        rw [everything, List.getElem?_map, pushed]
        rfl

end Calls

/-! ## What still waits -/

/-- The call of the waker for the signal at a position is still to come, or
nobody polled since. -/
def Awaited
    (schedule : List Turn) (delivery : Delivery) (position : Nat) : Prop :=
  (∃ thread, delivery.Owes thread position) ∨
    ∃ before thread rest,
      schedule = before ++ .wake thread :: rest ∧
        OwesAfter before thread position ∧
        rest.countP Turn.polls = 0

theorem Awaited.later
    {schedule : List Turn} {delivery after : Delivery} {turn : Turn}
    {position : Nat} (awaited : delivery.Awaited schedule position)
    (unpolled : turn.polls = false)
    (stillOwing : ∀ thread,
      delivery.Owes thread position → after.Owes thread position) :
    after.Awaited (schedule ++ [turn]) position := by
  rcases awaited with ⟨thread, owing⟩ | ⟨before, thread, rest, split, call, none⟩
  · exact Or.inl ⟨thread, stillOwing thread owing⟩
  · refine Or.inr ⟨before, thread, rest ++ [turn], ?_, call, ?_⟩
    · simp [split]
    · simp [List.countP_append, none, unpolled]

theorem awaited_of_run
    {schedule : List Turn} {delivery : Delivery}
    (ran : (fresh true).run schedule = some delivery) :
    ∀ position, delivery.returned.length ≤ position →
      position < delivery.pushed.length →
        delivery.Awaited schedule position := by
  -- A push owes a call, a call that was owed is made, and a poll leaves nothing
  -- waiting.
  induction schedule using List.reverseRecOn generalizing delivery with
  | nil =>
      cases ran
      intro position _ within
      cases within
  | append_singleton schedule turn inductionHypothesis =>
      intro position unreturned within
      obtain ⟨before, arrives, taken⟩ := takes_of_run_concat ran
      have history := history_of_run arrives
      have earlier := inductionHypothesis arrives position
      cases taken with
      | push ready silent =>
          exact absurd (history.waking.symm.trans silent) nofun
      | @pushOwing thread signal ready waking =>
          have owes : ∀ other,
              ((before.append signal).start thread
                  (.waking before.pushed.length)).Owes other position ↔
                other = thread ∧ position = before.pushed.length ∨
                  before.Owes other position :=
            fun other => owes_start_waking ready _
          by_cases newest : position = before.pushed.length
          · exact
              Or.inl ⟨thread, (owes thread).mpr (Or.inl ⟨rfl, newest⟩)⟩
          · have bound : position < before.pushed.length + 1 := by
              simpa [start, append] using within
            apply (earlier unreturned (by omega)).later rfl
            intro other owing
            exact (owes other).mpr (Or.inr owing)
      | @wake thread called owing =>
          by_cases same : position = called
          · subst same
            exact
              Or.inr
                ⟨schedule, thread, [], rfl, ⟨before, arrives, owing⟩, rfl⟩
          · apply (earlier unreturned within).later rfl
            intro other owed
            apply owes_finish.mpr
            refine ⟨?_, owed⟩
            intro sameThread
            rw [sameThread] at owed
            cases owing.symm.trans owed
            exact same rfl
      | ask ready =>
          apply (earlier unreturned within).later rfl
          intro other owing
          exact (owes_start_polling ready).mpr owing
      | @poll poller asked =>
          obtain ⟨_, everything⟩ := returned_of_run_poll ran
          have length := congrArg List.length everything
          rw [List.length_map] at length
          have pushed : before.pushed.length = (pushes schedule).length := by
            rw [history.pushed, List.length_map]
          have bound : position < before.pushed.length := within
          omega
      | look ready => exact (earlier unreturned within).later rfl fun _ => id

/-- Once every call of the waker was made, and somebody polled after each of
them, nothing waits. -/
theorem waiting_eq_nil_of_polled
    {schedule : List Turn} {delivery : Delivery}
    (ran : (fresh true).run schedule = some delivery)
    (called : ∀ thread position, ¬delivery.Owes thread position)
    (polled : ∀ before thread rest,
      schedule = before ++ .wake thread :: rest →
        0 < rest.countP Turn.polls) :
    delivery.waiting = [] := by
  have kept := congrArg List.length (history_of_run ran).kept
  rw [List.length_append] at kept
  by_cases empty : delivery.waiting.length = 0
  · exact List.length_eq_zero_iff.mp empty
  · have within : delivery.returned.length < delivery.pushed.length := by
      omega
    rcases awaited_of_run ran _ (Nat.le_refl _) within with
      ⟨thread, owing⟩ | ⟨before, thread, rest, split, _, unpolled⟩
    · exact absurd owing (called thread _)
    · have later := polled before thread rest split
      omega

end Delivery

/-! ## The hub's waker -/

/-- What the waker sees, call by call. -/
def Trace.wakings (trace : Trace) : List (Option Nat) :=
  trace.filterMap fun
    | .woken waiting => some waiting
    | _ => none

namespace Host

theorem wakings_wake (host : Host) :
    Trace.wakings host.wake = [host.shared.waiting?.map List.length] := by
  rw [wake]
  split
  · rename_i here
    rw [here]
    rfl
  · rename_i here
    rw [here]
    rfl

/-- Receiving a signal is a push and then one call of the waker, from a state
in which the buffer is free and holds the signal. -/
def PushesThenWakes
    (host : Host) (scope : Scope) (waker : Waker) (delivery : Delivery)
    (thread : Nat) (signal : Signal) : Prop :=
  ∃ owing after pushed,
    delivery.run [.push thread signal] = some owing ∧
      owing.Owes thread delivery.pushed.length ∧
      owing.run [.wake thread] = some after ∧
      pushed.Buffers scope (some waker) owing ∧
      (pushed.hub scope).waiting? = some (delivery.waiting ++ [signal]) ∧
      host.receive scope (.buffering (some waker) delivery.waiting) signal =
        (pushed, Trace.holding (.buffer scope) [] ++ pushed.wake) ∧
      Trace.wakings pushed.wake =
        [pushed.shared.waiting?.map List.length]

theorem Buffers.pushesThenWakes
    {host : Host} {scope : Scope} {waker : Waker} {delivery : Delivery}
    {thread : Nat} (buffers : host.Buffers scope (some waker) delivery)
    (ready : delivery.errand? thread = none) (signal : Signal) :
    host.PushesThenWakes scope waker delivery thread signal := by
  let owing :=
    (delivery.append signal).start thread (.waking delivery.pushed.length)
  have waking : delivery.waking = true := buffers.waking
  have owes : owing.Owes thread delivery.pushed.length :=
    Delivery.errand?_start (delivery.append signal) thread _
  have pushing : delivery.run [.push thread signal] = some owing := by
    simp [Delivery.run, Delivery.step, ready, waking, owing]
  have calling :
      owing.run [.wake thread] =
        some
          { owing.finish thread with
              woken := owing.woken ++ [delivery.pushed.length] } := by
    rw [Delivery.Owes] at owes
    simp [Delivery.run, Delivery.step, owes]
  have sink :
      ((host.receive scope (.buffering (some waker) delivery.waiting)
          signal).1.hub scope).sink =
        some (.buffering (some waker) (delivery.waiting ++ [signal])) := by
    simp [Host.receive, buffer]
  refine
    ⟨owing, _, _, pushing, owes, calling, ⟨sink, waking⟩, ?_, rfl,
      wakings_wake _⟩
  rw [Hub.waiting?, sink]
  rfl

end Host

/-! ## No wake-up is lost -/

namespace Delivery

/-- However calls that push and then wake are interleaved with polls: the waker
runs once for each signal, when it runs the signal was pushed, and every later
poll leaves the signal returned; so what still waits has its call to come or
was not polled for since. -/
theorem no_wakeup_is_lost
    {schedule : List Turn} {delivery : Delivery}
    (ran : (fresh true).run schedule = some delivery) :
    delivery.WokenOnce schedule ∧
      (∀ before thread rest,
        schedule = before ++ .wake thread :: rest →
          ∃ position signal,
            OwesAfter before thread position ∧
              CallServed before thread rest position signal) ∧
      (∀ position, delivery.returned.length ≤ position →
        position < delivery.pushed.length →
          delivery.Awaited schedule position) ∧
      ((∀ thread position, ¬delivery.Owes thread position) →
        (∀ before thread rest,
          schedule = before ++ .wake thread :: rest →
            0 < rest.countP Turn.polls) →
          delivery.waiting = []) ∧
      ∀ host scope waker thread signal,
        Host.Buffers host scope (some waker) delivery →
          delivery.errand? thread = none →
            host.PushesThenWakes scope waker delivery thread signal := by
  refine ⟨wokenOnce_of_run ran, ?_, awaited_of_run ran, ?_, ?_⟩
  · intro before thread rest split
    rw [split] at ran
    exact callServed_of_run ran
  · intro called polled
    exact waiting_eq_nil_of_polled ran called polled
  · intro host scope waker thread signal buffers ready
    exact buffers.pushesThenWakes ready signal

/-- The poll of one thread takes the signal of another, whose own call of the
waker comes later and finds nothing. -/
def overtaken : List Turn :=
  [.push 0 (signalOf 0 0), .push 1 (signalOf 1 0), .wake 1, .ask 1, .poll 1,
    .wake 0, .ask 0, .poll 0]

theorem no_wakeup_is_lost_overtaken :
    ∃ delivery : Delivery,
      (fresh true).run overtaken = some delivery ∧
        delivery.woken = [1, 0] ∧
        delivery.polled = [[signalOf 0 0, signalOf 1 0], []] ∧
        delivery.WokenOnce overtaken := by
  obtain ⟨delivery, ran, woken, polled⟩ :
      ∃ delivery : Delivery,
        (fresh true).run overtaken = some delivery ∧
          delivery.woken = [1, 0] ∧
          delivery.polled = [[signalOf 0 0, signalOf 1 0], []] :=
    ⟨_, rfl, rfl, rfl⟩
  exact ⟨delivery, ran, woken, polled, (no_wakeup_is_lost ran).1⟩

end Delivery

end SignalHub
