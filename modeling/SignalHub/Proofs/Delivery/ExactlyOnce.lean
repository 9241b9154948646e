import Mathlib.Algebra.Ring.Nat
import Mathlib.Data.List.Nodup
import SignalHub.Proofs.Delivery.Buffer
import SignalHub.Proofs.Text.ByteOrder

/-!
# Every signal is delivered once

However threads that log and poll are interleaved, polls return the signals in
the order of the pushes, each of them once; what has not been returned waits.
So the order of the turns of several threads does not matter to somebody who
sorts what a poll returns.
-/

namespace SignalHub

open Text

namespace Delivery

/-! ## Once and in order -/

/-- What polls returned, followed by what waits, is what was pushed. -/
structure ExactlyOnce (schedule : List Turn) (delivery : Delivery) : Prop where
  whole :
    delivery.polled.flatten ++ delivery.waiting =
      (pushes schedule).map Prod.snd
  polls : delivery.polled.length = schedule.countP Turn.polls
  once : ∀ signal,
    (delivery.polled.map (List.count signal)).sum +
        delivery.waiting.count signal =
      ((pushes schedule).map Prod.snd).count signal
  /-- Signals that differ from one another are returned by one poll at most, and
  do not wait any more when they have been returned. -/
  apart : ((pushes schedule).map Prod.snd).Nodup →
    delivery.polled.Pairwise List.Disjoint ∧
      ∀ signals ∈ delivery.polled,
        signals.Nodup ∧ signals.Disjoint delivery.waiting
  /-- The signals come from threads, and those of each thread in its order. -/
  order : ∃ came left : List (Nat × Signal),
    came.map Prod.snd = delivery.polled.flatten ∧
      left.map Prod.snd = delivery.waiting ∧
      ∀ thread,
        ((came ++ left).filter (·.1 == thread)).map Prod.snd =
          emitted schedule thread

theorem exactlyOnce_of_run
    {waking : Bool} {schedule : List Turn} {delivery : Delivery}
    (ran : (fresh waking).run schedule = some delivery) :
    delivery.ExactlyOnce schedule := by
  have history := history_of_run ran
  have whole :
      delivery.polled.flatten ++ delivery.waiting =
        (pushes schedule).map Prod.snd :=
    history.kept.trans history.pushed
  constructor
  · exact whole
  · exact history.polled
  · intro signal
    rw [← List.count_flatten, ← List.count_append, whole]
  · intro distinct
    rw [← whole, List.nodup_append'] at distinct
    obtain ⟨returned, _, separate⟩ := distinct
    obtain ⟨each, pairwise⟩ := List.nodup_flatten.mp returned
    refine ⟨pairwise, ?_⟩
    intro signals member
    refine ⟨each signals member, ?_⟩
    intro signal here there
    exact
      separate (List.mem_flatten.mpr ⟨signals, member, here⟩) there
  -- Of what was pushed, so much came and the others are left.
  · refine
      ⟨(pushes schedule).take delivery.polled.flatten.length,
        (pushes schedule).drop delivery.polled.flatten.length, ?_, ?_, ?_⟩
    · rw [List.map_take, ← whole, List.take_left]
    · rw [List.map_drop, ← whole, List.drop_left]
    · intro thread
      rw [List.take_append_drop, emitted_eq_pushes]

/-! ## Several threads and one poll -/

/-- So many threads emit so many signals each, and nobody polls. -/
structure EmitsAll (schedule : List Turn) (threads count : Nat) : Prop where
  own : ∀ thread < threads,
    (emitted schedule thread).map Signal.message =
      (List.range count).map fun index => (signalOf thread index).message
  others : ∀ thread, threads ≤ thread → emitted schedule thread = []
  unpolled : schedule.countP Turn.polls = 0

/-- Items with a key below a bound, sorted by their keys. -/
theorem perm_flatMap_filter
    {Item : Type} {keyed : List (Nat × Item)} {bound : Nat}
    (below : ∀ entry ∈ keyed, entry.1 < bound) :
    keyed.Perm
      ((List.range bound).flatMap fun key =>
        keyed.filter (·.1 == key)) := by
  induction bound generalizing keyed with
  | zero =>
      have empty : keyed = [] := by
        apply List.eq_nil_iff_forall_not_mem.mpr
        intro entry member
        exact absurd (below entry member) (Nat.not_lt_zero entry.1)
      rw [empty]
      exact List.Perm.refl []
  | succ bound inductionHypothesis =>
      let lower := keyed.filter (·.1 < bound)
      have highest :
          keyed.filter (fun entry => !decide (entry.1 < bound)) =
            keyed.filter (·.1 == bound) := by
        apply List.filter_congr
        intro entry member
        have within := below entry member
        rw [Bool.eq_iff_iff]
        simp
        omega
      have lowerBelow : ∀ entry ∈ lower, entry.1 < bound := by
        intro entry member
        exact of_decide_eq_true (List.mem_filter.mp member).2
      have sameBelow :
          ((List.range bound).flatMap fun key =>
              lower.filter (·.1 == key)) =
            (List.range bound).flatMap fun key =>
              keyed.filter (·.1 == key) := by
        apply List.flatMap_congr
        intro key member
        have keyBelow := List.mem_range.mp member
        rw [List.filter_filter]
        apply List.filter_congr
        intro entry _
        rw [Bool.eq_iff_iff]
        simp
        omega
      rw [List.range_succ, List.flatMap_append, List.flatMap_singleton]
      calc
        keyed.Perm
            (lower ++ keyed.filter fun entry => !decide (entry.1 < bound)) :=
          (List.filter_append_perm _ keyed).symm
        _ = lower ++ keyed.filter (·.1 == bound) := by rw [highest]
        List.Perm _ _ := by
          rw [← sameBelow]
          exact (inductionHypothesis lowerBelow).append_right _

/-- Some thread pushed what was pushed. -/
theorem mem_emitted_of_mem_pushes
    {schedule : List Turn} {entry : Nat × Signal}
    (member : entry ∈ pushes schedule) :
    entry.2 ∈ emitted schedule entry.1 := by
  rw [emitted_eq_pushes]
  apply List.mem_map_of_mem
  exact List.mem_filter.mpr ⟨member, beq_self_eq_true entry.1⟩

/-- The messages of so many threads, with so many each. -/
def allMessages (threads count : Nat) : List String :=
  (List.range threads).flatMap fun thread =>
    (List.range count).map fun index => (signalOf thread index).message

section Emitters

variable {schedule : List Turn} {threads count : Nat}

theorem EmitsAll.perm_pushes
    (emits : EmitsAll schedule threads count) :
    (((pushes schedule).map Prod.snd).map Signal.message).Perm
      (allMessages threads count) := by
  have below : ∀ entry ∈ pushes schedule, entry.1 < threads := by
    intro entry member
    apply Nat.lt_of_not_le
    intro beyond
    have emitted := mem_emitted_of_mem_pushes member
    rw [emits.others entry.1 beyond] at emitted
    cases emitted
  have each :
      ∀ thread ∈ List.range threads,
        ((((pushes schedule).filter (·.1 == thread)).map Prod.snd).map
            Signal.message) =
          (List.range count).map fun index =>
            (signalOf thread index).message := by
    intro thread member
    rw [← emitted_eq_pushes]
    exact emits.own thread (List.mem_range.mp member)
  have grouped :=
    ((perm_flatMap_filter below).map Prod.snd).map Signal.message
  rw [List.map_flatMap, List.map_flatMap, List.flatMap_congr each] at grouped
  exact grouped

/-- The only poll returns everything, and sorting forgets the schedule. -/
theorem EmitsAll.polled
    {waking : Bool} {host : Nat} {delivery : Delivery}
    (emits : EmitsAll schedule threads count)
    (ran : (fresh waking).run (schedule ++ [.poll host]) = some delivery) :
    ∃ signals,
      delivery.polled = [signals] ∧ delivery.waiting = [] ∧
        (signals.map Signal.message).Perm (allMessages threads count) := by
  have once : delivery.polled.length = 1 := by
    rw [(history_of_run ran).polled, List.countP_append, emits.unpolled]
    rfl
  obtain ⟨signals, alone⟩ := List.length_eq_one_iff.mp once
  obtain ⟨empty, everything⟩ := returned_of_run_poll ran
  rw [returned, alone, List.flatten_singleton] at everything
  refine ⟨signals, alone, empty, ?_⟩
  rw [everything]
  exact emits.perm_pushes

end Emitters

/-! ## All threads in rounds -/

/-- Who only pushes, and has no waker to call, is always ready. -/
theorem run_pushes
    (delivery : Delivery) (silent : delivery.waking = false)
    (idle : delivery.errands = []) (signals : List (Nat × Signal)) :
    ∃ after,
      delivery.run (signals.map fun entry => .push entry.1 entry.2) =
          some after ∧
        after.errands = [] := by
  induction signals generalizing delivery with
  | nil => exact ⟨delivery, rfl, idle⟩
  | cons entry rest inductionHypothesis =>
      have pushed :
          delivery.step (.push entry.1 entry.2) =
            some (delivery.append entry.2) := by
        simp [step, errand?, idle, silent]
      obtain ⟨after, arrives, still⟩ :=
        inductionHypothesis (delivery.append entry.2) silent idle
      refine ⟨after, ?_, still⟩
      rw [List.map_cons, run, pushed]
      exact arrives

theorem rounds_eq_map (threads count : Nat) :
    rounds threads count =
      ((List.range count).flatMap fun index =>
        (List.range threads).map fun thread =>
          (thread, signalOf thread index)).map fun entry =>
            .push entry.1 entry.2 := by
  rw [List.map_flatMap, rounds]
  congr
  funext index
  rw [List.map_map]
  rfl

/-- In one round a thread emits once, if it takes part. -/
theorem emitted_round (threads index thread : Nat) :
    emitted
        ((List.range threads).map fun other =>
          .push other (signalOf other index)) thread =
      if thread < threads then [signalOf thread index] else [] := by
  induction threads with
  | zero => rfl
  | succ threads inductionHypothesis =>
      simp only [emitted] at inductionHypothesis ⊢
      rw [List.range_succ, List.map_append, List.filterMap_append,
        inductionHypothesis]
      by_cases last : threads = thread
      · simp [last]
      · have same : thread < threads + 1 ↔ thread < threads := by omega
        simp [last, same]

theorem emitsAll_rounds (threads count host : Nat) :
    EmitsAll (rounds threads count ++ [.ask host]) threads count := by
  have own : ∀ thread,
      emitted (rounds threads count ++ [.ask host]) thread =
        (List.range count).flatMap fun index =>
          if thread < threads then [signalOf thread index] else [] := by
    intro thread
    rw [emitted, List.filterMap_append, rounds, List.filterMap_flatMap]
    simp only [List.filterMap_cons, List.filterMap_nil, List.append_nil]
    apply List.flatMap_congr
    intro index _
    exact emitted_round threads index thread
  constructor
  · intro thread within
    rw [own, List.map_flatMap, List.map_eq_flatMap]
    simp only [if_pos within, List.map_cons, List.map_nil]
  · intro thread beyond
    rw [own]
    simp [Nat.not_lt.mpr beyond]
  · rw [List.countP_eq_zero]
    intro turn member
    rcases List.mem_append.mp member with early | last
    · obtain ⟨index, _, here⟩ := List.mem_flatMap.mp early
      obtain ⟨thread, _, rfl⟩ := List.mem_map.mp here
      exact Bool.false_ne_true
    · rw [List.mem_singleton.mp last]
      exact Bool.false_ne_true

/-- The sorted messages that the rounds lead to. -/
theorem messages_eq (threads count : Nat) :
    messages threads count =
      (allMessages threads count).mergeSort byteLe := by
  have idle : (fresh false).errands = [] := rfl
  obtain ⟨pushed, arrives, ready⟩ :=
    run_pushes (fresh false) rfl idle
      ((List.range count).flatMap fun index =>
        (List.range threads).map fun thread =>
          (thread, signalOf thread index))
  rw [← rounds_eq_map] at arrives
  have asked :
      pushed.step (.ask threads) =
        some (pushed.start threads .polling) := by
    simp [step, errand?, ready]
  have polled :
      (pushed.start threads .polling).step (.poll threads) =
        some ((pushed.start threads .polling).drain.finish threads) := by
    simp [step, errand?, start]
  have split :
      turns threads count =
        (rounds threads count ++ [.ask threads]) ++ [.poll threads] := by
    simp [turns]
  have ran :
      (fresh false).run (turns threads count) =
        some ((pushed.start threads .polling).drain.finish threads) := by
    rw [split, run_concat, run_concat, arrives, Option.bind_some, asked,
      Option.bind_some, polled]
  obtain ⟨signals, alone, _, same⟩ :=
    (emitsAll_rounds threads count threads).polled (split ▸ ran)
  rw [messages, ran]
  simp only [returned, alone, List.flatten_singleton]
  exact mergeSort_eq_of_perm same

/-! ## What the messages say -/

/-- A label is far too short to be cut. -/
theorem message_signalOf
    {thread index : Nat} (fewThreads : thread < 2 ^ 64)
    (fewSignals : index < 2 ^ 64) :
    (signalOf thread index).message = label thread index := by
  have longest :=
    (Formatter.text (label thread index)).longestFitting_bounded messageSize
  rw [Formatter.offeredBounded_text] at longest
  apply longest.eq_of_fits
  have first := length_bytes_toString fewThreads
  have last := length_bytes_toString fewSignals
  have separator : (bytes "-").length = 1 := by decide
  have parts :
      (bytes (label thread index)).length =
        (bytes (toString thread)).length + (bytes "-").length +
          (bytes (toString index)).length := by
    simp only [label, bytes, String.toList_append, encode_append,
      List.length_append]
  rw [parts, separator, messageSize]
  omega

theorem perm_messages
    {threads count : Nat} (fewThreads : threads ≤ 2 ^ 64)
    (fewSignals : count ≤ 2 ^ 64) :
    (messages threads count).Perm
      ((List.range threads).flatMap fun thread =>
        (List.range count).map fun index => label thread index) := by
  have labelled :
      allMessages threads count =
        (List.range threads).flatMap fun thread =>
          (List.range count).map fun index => label thread index := by
    apply List.flatMap_congr
    intro thread takesPart
    apply List.map_congr_left
    intro index emits
    have thread64 := List.mem_range.mp takesPart
    have index64 := List.mem_range.mp emits
    exact message_signalOf (by omega) (by omega)
  rw [messages_eq, ← labelled]
  exact List.mergeSort_perm _ byteLe

/-! ## Delivery through a buffer -/

/-- However the turns of any threads are interleaved: what polls returned and
what waits is what was pushed, once and in order.  If so many threads emit so
many signals each and then one poll is made, it returns all of them, and the
sorted messages do not depend on the schedule.  And a hub with a buffer does
nothing but take such turns. -/
theorem buffer_delivers_exactly_once
    {waking : Bool} {schedule : List Turn} {delivery : Delivery}
    (ran : (fresh waking).run schedule = some delivery) :
    delivery.ExactlyOnce schedule ∧
      (∀ threads count host earlier,
        schedule = earlier ++ [.poll host] →
          EmitsAll earlier threads count →
            ∃ signals,
              delivery.polled = [signals] ∧ delivery.waiting = [] ∧
                (signals.map Signal.message).mergeSort byteLe =
                  messages threads count) ∧
      (∀ threads count, threads ≤ 2 ^ 64 → count ≤ 2 ^ 64 →
        (messages threads count).Perm
          ((List.range threads).flatMap fun thread =>
            (List.range count).map fun index => label thread index)) ∧
      ∀ host scope waker thread,
        Host.Buffers host scope waker delivery →
          delivery.errand? thread = none →
            host.TakesTurns scope waker delivery thread := by
  refine ⟨exactlyOnce_of_run ran, ?_, ?_, ?_⟩
  · intro threads count host earlier split emits
    obtain ⟨signals, alone, empty, same⟩ := emits.polled (split ▸ ran)
    refine ⟨signals, alone, empty, ?_⟩
    rw [messages_eq]
    exact mergeSort_eq_of_perm same
  · intro threads count fewThreads fewSignals
    exact perm_messages fewThreads fewSignals
  · intro host scope waker thread buffers ready
    exact buffers.takesTurns ready

/-- Two threads emit twice each, overlapping one another and a third one that
asked early; two calls of the waker are still to come. -/
def overlapping : List Turn :=
  [.push 1 (signalOf 1 0), .push 0 (signalOf 0 0), .wake 0, .ask 2,
    .push 0 (signalOf 0 1), .wake 1, .push 1 (signalOf 1 1)]

theorem emitsAll_overlapping : EmitsAll overlapping 2 2 := by
  constructor
  · intro thread takesPart
    match thread with
    | 0 => rfl
    | 1 => rfl
  · intro thread beyond
    match thread with
    | _ + 2 => rfl
  · rfl

theorem buffer_delivers_exactly_once_overlapping :
    ∃ delivery signals host,
      (fresh true).run (overlapping ++ [.poll 2]) = some delivery ∧
        delivery.ExactlyOnce (overlapping ++ [.poll 2]) ∧
        delivery.polled = [signals] ∧
        (signals.map Signal.message).mergeSort byteLe = messages 2 2 ∧
        (messages 2 2).Perm
          ((List.range 2).flatMap fun thread =>
            (List.range 2).map fun index => label thread index) ∧
        Host.TakesTurns host .shared (some .acting) delivery 2 := by
  obtain ⟨delivery, ran, waking, waiting, ready⟩ :
      ∃ delivery : Delivery,
        (fresh true).run (overlapping ++ [.poll 2]) = some delivery ∧
          delivery.waking = true ∧ delivery.waiting = [] ∧
          delivery.errand? 2 = none :=
    ⟨_, rfl, rfl, rfl, rfl⟩
  have buffers :
      ((Host.fresh false "").setSink .shared
          (some (.buffering (some .acting) []))).Buffers .shared
        (some .acting) delivery :=
    ⟨waiting ▸ rfl, waking⟩
  obtain ⟨exactly, once, labels, takes⟩ := buffer_delivers_exactly_once ran
  obtain ⟨signals, alone, _, sorted⟩ :=
    once 2 2 2 overlapping rfl emitsAll_overlapping
  exact
    ⟨delivery, signals, _, ran, exactly, alone, sorted,
      labels 2 2 (by decide) (by decide), takes _ _ _ 2 buffers ready⟩

end Delivery

end SignalHub
