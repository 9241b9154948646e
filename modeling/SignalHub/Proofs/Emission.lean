import SignalHub.Host.Emission
import SignalHub.Proofs.Bounded
import SignalHub.Proofs.Trace

/-!
# One emission

What the gate lets through, and what a whole emission does: a question to the
filter, the formatting, one delivery, and then whatever the sink does itself.
Functions of the host that act from inside only add to the end.
-/

namespace SignalHub

open Output Text

/-- The signal that a message becomes. -/
def Message.signal (message : Message) (category : String) (origin : Origin) :
    Signal :=
  ⟨category, origin, message.program.bounded messageSize⟩

theorem Message.longestFitting_signal
    (message : Message) (category : String) (origin : Origin) :
    LongestFitting 249 (message.program.offeredBounded messageSize)
      (message.signal category origin).message :=
  message.program.longestFitting_bounded messageSize

namespace Sink

/-- The signal as it reaches a function of the host, if the sink is one. -/
def passedOn (sink : Sink) (signal : Signal) : Trace :=
  match sink with
  | .callback => [.received .native signal]
  | .foreign => [.received .foreign signal.outgoing]
  | _ => []

/-- A sink after it received signals: only a buffer changes. -/
def given (sink : Sink) (signals : List Signal) : Sink :=
  match sink with
  | .buffering waker waiting => .buffering waker (waiting ++ signals)
  | other => other

@[simp]
theorem given_nil (sink : Sink) : sink.given [] = sink := by
  cases sink with
  | buffering waker waiting => simp [given]
  | _ => rfl

@[simp]
theorem given_given (sink : Sink) (first second : List Signal) :
    (sink.given first).given second = sink.given (first ++ second) := by
  cases sink with
  | buffering waker waiting => simp [given]
  | _ => rfl

end Sink

/-! ## What reaches functions of the host -/

namespace Filter

@[simp]
theorem passages_passedOn (filter : Filter) (category : String) :
    Trace.passages (filter.passedOn category) = filter.passedOn category := by
  cases filter <;> rfl

@[simp]
theorem deliveries_passedOn (filter : Filter) (category : String) :
    Trace.deliveries (filter.passedOn category) = [] := by
  cases filter <;> rfl

end Filter

namespace Sink

@[simp]
theorem deliveries_passedOn (sink : Sink) (signal : Signal) :
    Trace.deliveries (sink.passedOn signal) = [] := by
  cases sink <;> rfl

end Sink

/-! ## The gate -/

namespace Host

section Gate

variable {host : Host} {scope : Scope} {sink : Sink} {filter : Filter}

theorem gate_of_registered
    (sinkHere : (host.hub scope).sink = some sink)
    (filterHere : (host.hub scope).filter = some filter)
    (category : String) :
    host.gate scope category =
      (if filter.accepts host.acceptance category then some sink else none,
        .question filter category :: filter.passedOn category) := by
  rw [gate, sinkHere, filterHere]
  rfl

theorem gate_of_missing
    (missing : (host.hub scope).sink = none ∨ (host.hub scope).filter = none)
    (category : String) :
    host.gate scope category = (none, []) := by
  rw [gate]
  rcases missing with sinkless | unfiltered
  · rw [sinkless]
  · rw [unfiltered]
    cases (host.hub scope).sink <;> rfl

theorem wants_of_registered
    (sinkHere : (host.hub scope).sink = some sink)
    (filterHere : (host.hub scope).filter = some filter)
    (category : String) :
    host.wants scope category =
      (filter.accepts host.acceptance category,
        .question filter category :: filter.passedOn category) := by
  simp only [wants, sinkHere, filterHere, ask]

theorem wants_of_missing
    (missing : (host.hub scope).sink = none ∨ (host.hub scope).filter = none)
    (category : String) :
    host.wants scope category = (false, []) := by
  rw [wants]
  rcases missing with sinkless | unfiltered
  · rw [sinkless]
  · rw [unfiltered]
    cases (host.hub scope).sink <;> rfl

/-- Only the registered sink gets through, and the gate itself delivers
nothing. -/
theorem gate_cases (host : Host) (scope : Scope) (category : String) :
    Trace.deliveries (host.gate scope category).2 = [] ∧
      ∀ sink, (host.gate scope category).1 = some sink →
        (host.hub scope).sink = some sink := by
  cases sinkHere : (host.hub scope).sink with
  | none =>
      rw [gate_of_missing (Or.inl sinkHere)]
      exact ⟨rfl, fun sink impossible => nomatch impossible⟩
  | some registered =>
      cases filterHere : (host.hub scope).filter with
      | none =>
          rw [gate_of_missing (Or.inr filterHere)]
          exact ⟨rfl, fun sink impossible => nomatch impossible⟩
      | some filter =>
          rw [gate_of_registered sinkHere filterHere]
          refine ⟨filter.deliveries_passedOn category, ?_⟩
          intro sink through
          split at through
          · exact through
          · cases through

/-- The gate only asks. -/
theorem asking_gate (host : Host) (scope : Scope) (category : String) :
    (host.gate scope category).2.all Trace.isAsking ∧
      (host.wants scope category).2.all Trace.isAsking := by
  cases sinkHere : (host.hub scope).sink with
  | none =>
      rw [gate_of_missing (Or.inl sinkHere),
        wants_of_missing (Or.inl sinkHere)]
      exact ⟨rfl, rfl⟩
  | some sink =>
      cases filterHere : (host.hub scope).filter with
      | none =>
          rw [gate_of_missing (Or.inr filterHere),
            wants_of_missing (Or.inr filterHere)]
          exact ⟨rfl, rfl⟩
      | some filter =>
          rw [gate_of_registered sinkHere filterHere,
            wants_of_registered sinkHere filterHere]
          cases filter <;> exact ⟨rfl, rfl⟩

end Gate

/-! ## What a sink does -/

theorem conveyance_wake (host : Host) :
    host.wake.all Trace.isConveyance := by
  rw [wake]
  split <;> rfl

theorem conveyance_receive
    (host : Host) (scope : Scope) (sink : Sink) (signal : Signal) :
    (host.receive scope sink signal).2.all Trace.isConveyance := by
  cases sink with
  | buffering waker waiting =>
      cases waker with
      | none => rfl
      | some waker => exact conveyance_wake _
  | _ => rfl

@[simp]
theorem passages_wake (host : Host) : Trace.passages host.wake = [] := by
  rw [wake]
  split <;> simp [Trace.isPassage]

@[simp]
theorem passages_receive
    (host : Host) (scope : Scope) (sink : Sink) (signal : Signal) :
    Trace.passages (host.receive scope sink signal).2 =
      sink.passedOn signal := by
  cases sink with
  | buffering waker waiting =>
      cases waker <;> simp [receive, buffer, Sink.passedOn]
  | _ => rfl

@[simp]
theorem deliveries_receive
    (host : Host) (scope : Scope) (sink : Sink) (signal : Signal) :
    Trace.deliveries (host.receive scope sink signal).2 = [] := by
  rw [← Trace.deliveries_passages, passages_receive]
  exact sink.deliveries_passedOn signal

@[simp]
theorem script_setSink (host : Host) (scope : Scope) (sink : Option Sink) :
    (host.setSink scope sink).script = host.script := by
  cases scope <;> rfl

@[simp]
theorem acceptance_setSink
    (host : Host) (scope : Scope) (sink : Option Sink) :
    (host.setSink scope sink).acceptance = host.acceptance := by
  cases scope <;> rfl

@[simp]
theorem hub_setSink (host : Host) (scope : Scope) (sink : Option Sink) :
    (host.setSink scope sink).hub scope = { host.hub scope with sink } :=
  hub_setHub host scope _

@[simp]
theorem script_setFilter
    (host : Host) (scope : Scope) (filter : Option Filter) :
    (host.setFilter scope filter).script = host.script := by
  cases scope <;> rfl

@[simp]
theorem acceptance_setFilter
    (host : Host) (scope : Scope) (filter : Option Filter) :
    (host.setFilter scope filter).acceptance = host.acceptance := by
  cases scope <;> rfl

@[simp]
theorem hub_setFilter
    (host : Host) (scope : Scope) (filter : Option Filter) :
    (host.setFilter scope filter).hub scope =
      { host.hub scope with filter } :=
  hub_setHub host scope _

@[simp]
theorem hub_withPorts (host : Host) (ports : Ports) (scope : Scope) :
    Host.hub { host with ports } scope = host.hub scope := by
  cases scope <;> rfl

@[simp]
theorem hub_withScript (host : Host) (script : List Action) (scope : Scope) :
    Host.hub { host with script } scope = host.hub scope := by
  cases scope <;> rfl

@[simp]
theorem hub_withAcceptance
    (host : Host) (acceptance : Acceptance) (scope : Scope) :
    Host.hub { host with acceptance } scope = host.hub scope := by
  cases scope <;> rfl

/-- A sink at work changes itself and the screen, and nothing else of the
host. -/
theorem receive_frame
    (host : Host) (scope : Scope) (sink : Sink) (signal : Signal)
    (sinkHere : (host.hub scope).sink = some sink) :
    (host.receive scope sink signal).1.hub scope =
        { host.hub scope with sink := some (sink.given [signal]) } ∧
      (host.receive scope sink signal).1.script = host.script ∧
        (host.receive scope sink signal).1.acceptance = host.acceptance := by
  have unchanged :
      { host.hub scope with sink := some sink } = host.hub scope := by
    rw [← sinkHere]
  cases sink with
  | buffering waker waiting => simp [receive, buffer, Sink.given]
  | console => simp [receive, Sink.given, unchanged]
  | _ => exact ⟨unchanged.symm, rfl, rfl⟩

/-! ## The whole emission -/

section Emission

variable {host : Host} {scope : Scope} {category : String} {asked : Trace}

theorem emitWithin_of_closed
    (closed : host.gate scope category = (none, asked))
    (turns : Nat) (origin : Origin) (message : Message) :
    emitWithin turns host scope category origin message = (host, asked) := by
  rw [emitWithin, closed]

theorem emitReading_of_closed
    (closed : host.gate scope category = (none, asked))
    (origin : Origin) (message : Message) :
    host.emitReading scope category origin message = (host, asked) :=
  emitWithin_of_closed closed host.script.length origin message

/-- An emission on the shared hub from inside of another one. -/
def emitNested
    (turns : Nat) (host : Host) (category : String) (origin : Origin)
    (message : Message) : Host × Trace :=
  ((emitWithin turns host .shared category origin message).1,
    Trace.reading .shared
      (emitWithin turns host .shared category origin message).2)

/-- What a function of the host does from inside of an emission whose sink is
one: the next action of the script.  How the emissions in it are made is left
open. -/
def followBy
    (emitting : Host → String → Origin → Message → Host × Trace)
    (host : Host) (sink : Sink) : Host × Trace :=
  if sink.acts then
    match host.script with
    | [] => (host, [])
    | action :: rest => { host with script := rest }.performBy emitting action
  else (host, [])

/-- The same, when so many actions may still be taken. -/
def followWithin : Nat → Host → Sink → Host × Trace
  | 0, host, _ => (host, [])
  | turns + 1, host, sink => host.followBy (emitNested turns) sink

/-- The same, when each emission is a call of its own. -/
def follow (host : Host) (sink : Sink) : Host × Trace :=
  host.followBy (fun within => within.emit .shared) sink

/-- An emission through an open gate, and what then happens from inside. -/
def through
    (following : Host → Sink → Host × Trace)
    (host : Host) (scope : Scope) (sink : Sink) (asked : Trace)
    (category : String) (origin : Origin) (message : Message) :
    Host × Trace :=
  let received := host.receive scope sink (message.signal category origin)
  ((following received.1 sink).1,
    asked ++
      [.formatted (message.program.runBounded messageSize).taken
          message.announced,
        .delivery sink (message.signal category origin)] ++
      received.2 ++ (following received.1 sink).2)

theorem emitWithin_of_opened
    {sink : Sink}
    (opened : host.gate scope category = (some sink, asked))
    (turns : Nat) (origin : Origin) (message : Message) :
    emitWithin turns host scope category origin message =
      host.through (followWithin turns) scope sink asked category origin
        message := by
  have signal :
      (⟨category, origin,
          (message.program.runBounded messageSize).buffer.text⟩ : Signal) =
        message.signal category origin := rfl
  rw [emitWithin, opened]
  cases turns with
  | zero =>
      simp only [signal, through, followWithin, ite_self, List.append_nil]
  | succ turns =>
      simp only [signal, through, followWithin, followBy]
      by_cases acts : sink.acts = true
      · simp only [acts, if_true]
        cases (host.receive scope sink
            (message.signal category origin)).1.script with
        | nil => simp only [List.append_nil]
        | cons action rest => rfl
      · simp only [acts, Bool.false_eq_true, if_false, List.append_nil]

/-! ## The script runs out -/

theorem script_receive
    (host : Host) (scope : Scope) (sink : Sink) (signal : Signal) :
    (host.receive scope sink signal).1.script = host.script := by
  cases sink with
  | buffering waker waiting => exact host.script_setSink scope _
  | console => simp only [receive]
  | _ => rfl

theorem script_pollAction (host : Host) :
    host.pollAction.1.script = host.script := by
  rw [pollAction, pollBuffer]
  cases (host.hub .shared).sink with
  | none => rfl
  | some sink => cases sink <;> rfl

section Nested

variable {bound : Nat}
  {emitting other : Host → String → Origin → Message → Host × Trace}

/-- No action puts anything back into the script. -/
theorem script_performBy_le
    (shrinks : ∀ host category origin message,
      (emitting host category origin message).1.script.length ≤
        host.script.length)
    (host : Host) (action : Action) :
    (host.performBy emitting action).1.script.length ≤
      host.script.length := by
  induction action generalizing host with
  | print text => exact Nat.le_refl _
  | emit category origin text => exact shrinks host category origin _
  | poll => exact Nat.le_of_eq (congrArg List.length host.script_pollAction)
  | nothing => exact Nat.le_refl _
  | both first second firstShrinks secondShrinks =>
      exact Nat.le_trans (secondShrinks _) (firstShrinks host)

/-- It matters only how emissions are made while the script is short. -/
theorem performBy_congr
    (shrinks : ∀ host category origin message,
      (emitting host category origin message).1.script.length ≤
        host.script.length)
    (same : ∀ host : Host, host.script.length ≤ bound →
      emitting host = other host)
    (host : Host) (short : host.script.length ≤ bound) (action : Action) :
    host.performBy emitting action = host.performBy other action := by
  induction action generalizing host with
  | emit category origin text =>
      rw [performBy, performBy, same host short]
  | both first second firstSame secondSame =>
      have shorter := script_performBy_le shrinks host first
      have middle := secondSame _ (Nat.le_trans shorter short)
      rw [firstSame host short] at middle
      rw [performBy, performBy, firstSame host short]
      simp only [middle]
  | _ => rfl

theorem script_followBy_le
    (shrinks : ∀ host category origin message,
      (emitting host category origin message).1.script.length ≤
        host.script.length)
    (host : Host) (sink : Sink) :
    (host.followBy emitting sink).1.script.length ≤ host.script.length := by
  rw [followBy]
  split
  · cases script : host.script with
    | nil => exact Nat.le_of_eq (congrArg List.length script)
    | cons action rest =>
        exact
          Nat.le_succ_of_le
            (script_performBy_le shrinks { host with script := rest } action)
  · exact Nat.le_refl _

/-- The action that is taken leaves one less. -/
theorem followBy_congr
    (shrinks : ∀ host category origin message,
      (emitting host category origin message).1.script.length ≤
        host.script.length)
    (same : ∀ host : Host, host.script.length ≤ bound →
      emitting host = other host)
    (host : Host) (short : host.script.length ≤ bound + 1) (sink : Sink) :
    host.followBy emitting sink = host.followBy other sink := by
  rw [followBy, followBy]
  cases script : host.script with
  | nil => rfl
  | cons action rest =>
      rw [script, List.length_cons] at short
      have performed :=
        performBy_congr shrinks same { host with script := rest }
          (Nat.le_of_succ_le_succ short) action
      simp only [performed]

theorem followBy_of_idle
    {host : Host} (idle : host.script = []) (sink : Sink) :
    host.followBy emitting sink = (host, []) := by
  rw [followBy, idle]
  exact ite_self _

end Nested

theorem script_through
    (following : Host → Sink → Host × Trace)
    (shrinks : ∀ host sink,
      (following host sink).1.script.length ≤ host.script.length)
    (host : Host) (scope : Scope) (sink : Sink) (asked : Trace)
    (category : String) (origin : Origin) (message : Message) :
    (host.through following scope sink asked category origin
      message).1.script.length ≤ host.script.length := by
  have received :=
    host.script_receive scope sink (message.signal category origin)
  rw [through, ← received]
  exact shrinks _ sink

theorem script_emitNested_le
    (turns : Nat) (host : Host) (category : String) (origin : Origin)
    (message : Message) :
    (emitNested turns host category origin message).1.script.length ≤
      host.script.length := by
  rw [emitNested]
  induction turns generalizing host category origin message with
  | zero =>
      cases opened : host.gate .shared category with
      | mk passed asked =>
          cases passed with
          | none => exact emitWithin_of_closed opened 0 _ _ ▸ Nat.le_refl _
          | some sink =>
              rw [emitWithin_of_opened opened]
              exact
                script_through (followWithin 0) (fun _ _ => Nat.le_refl _) host
                  .shared sink asked category origin message
  | succ turns inductionHypothesis =>
      cases opened : host.gate .shared category with
      | mk passed asked =>
          cases passed with
          | none => exact emitWithin_of_closed opened _ _ _ ▸ Nat.le_refl _
          | some sink =>
              rw [emitWithin_of_opened opened]
              exact
                script_through (followWithin (turns + 1))
                  (script_followBy_le inductionHypothesis) host .shared sink
                  asked category origin message

/-- Emissions differ only in what follows them. -/
theorem emitWithin_of_followed
    {turns more : Nat} {host : Host}
    (followed : ∀ received : Host, received.script = host.script →
      ∀ sink, received.followWithin turns sink = received.followWithin more sink)
    (scope : Scope) (category : String) (origin : Origin) (message : Message) :
    emitWithin turns host scope category origin message =
      emitWithin more host scope category origin message := by
  cases opened : host.gate scope category with
  | mk passed asked =>
      cases passed with
      | none => rw [emitWithin_of_closed opened, emitWithin_of_closed opened]
      | some sink =>
          rw [emitWithin_of_opened opened, emitWithin_of_opened opened, through,
            through, followed _ (host.script_receive scope sink _)]

theorem followWithin_of_idle
    {host : Host} (idle : host.script = []) (turns : Nat) (sink : Sink) :
    host.followWithin turns sink = (host, []) := by
  cases turns with
  | zero => rfl
  | succ turns => exact followBy_of_idle idle sink

/-- As many turns as the script is long are enough. -/
theorem emitWithin_congr
    {turns more : Nat} {host : Host} (enough : host.script.length ≤ turns)
    (enoughToo : host.script.length ≤ more) :
    emitWithin turns host = emitWithin more host := by
  -- Each turn takes an action from the script, so both counts go down together.
  induction turns generalizing more host with
  | zero =>
      have idle := List.length_eq_zero_iff.mp (Nat.le_zero.mp enough)
      funext scope category origin message
      apply emitWithin_of_followed
      intro received script sink
      rw [idle] at script
      rw [followWithin_of_idle script, followWithin_of_idle script]
  | succ turns inductionHypothesis =>
      funext scope category origin message
      apply emitWithin_of_followed
      intro received script sink
      rw [← script] at enough enoughToo
      cases more with
      | zero =>
          have idle := List.length_eq_zero_iff.mp (Nat.le_zero.mp enoughToo)
          rw [followWithin_of_idle idle, followWithin_of_idle idle]
      | succ more =>
          have same : ∀ within : Host,
              within.script.length ≤ min turns more →
                emitNested turns within = emitNested more within := by
            intro within short
            obtain ⟨fits, fitsToo⟩ := Nat.le_min.mp short
            funext category origin message
            rw [emitNested, emitNested, inductionHypothesis fits fitsToo]
          exact followBy_congr (script_emitNested_le turns) same _ (by omega) sink

/-- An emission from inside of another one is a call like any other. -/
theorem followWithin_eq_follow
    {turns : Nat} {host : Host} (enough : host.script.length ≤ turns)
    (sink : Sink) :
    host.followWithin turns sink = host.follow sink := by
  cases turns with
  | zero =>
      have idle := List.length_eq_zero_iff.mp (Nat.le_zero.mp enough)
      exact (followBy_of_idle idle sink).symm
  | succ turns =>
      have same : ∀ within : Host, within.script.length ≤ turns →
          emitNested turns within = within.emit .shared := by
        intro within short
        funext category origin message
        rw [emitNested, emit, emitReading,
          emitWithin_congr short (Nat.le_refl _)]
      exact followBy_congr (script_emitNested_le turns) same _ enough sink

/-- Through an open gate the message is formatted and delivered to the
registered sink; only then does a function of the host act. -/
theorem emitReading_eq_follow
    {sink : Sink}
    (opened : host.gate scope category = (some sink, asked))
    (origin : Origin) (message : Message) :
    host.emitReading scope category origin message =
      host.through follow scope sink asked category origin message := by
  have received :=
    host.script_receive scope sink (message.signal category origin)
  have enough :
      (host.receive scope sink
          (message.signal category origin)).1.script.length ≤
        host.script.length :=
    Nat.le_of_eq (congrArg List.length received)
  rw [emitReading, emitWithin_of_opened opened, through, through,
    followWithin_eq_follow enough]

/-- With an empty script nothing follows the delivery. -/
theorem emitReading_of_open
    {sink : Sink}
    (opened : host.gate scope category = (some sink, asked))
    (origin : Origin) (message : Message) :
    ∃ more,
      (host.emitReading scope category origin message).2 =
          asked ++
            [.formatted (message.program.runBounded messageSize).taken
                message.announced,
              .delivery sink (message.signal category origin)] ++
            (host.receive scope sink (message.signal category origin)).2 ++
            more ∧
        (host.script = [] → more = [] ∧
          (host.emitReading scope category origin message).1 =
            (host.receive scope sink (message.signal category origin)).1) := by
  rw [emitReading_eq_follow opened]
  refine ⟨_, rfl, ?_⟩
  intro idle
  have received :=
    host.script_receive scope sink (message.signal category origin)
  rw [idle] at received
  rw [through, follow, followBy_of_idle received]
  exact ⟨rfl, rfl⟩

theorem emit_eq
    (host : Host) (scope : Scope) (category : String) (origin : Origin)
    (message : Message) :
    host.emit scope category origin message =
      ((host.emitReading scope category origin message).1,
        Trace.reading scope
          (host.emitReading scope category origin message).2) := rfl

/-- With an empty script nobody acts from inside. -/
theorem emit_of_idle
    {sink : Sink} (idle : host.script = [])
    (opened : host.gate scope category = (some sink, asked))
    (origin : Origin) (message : Message) :
    host.emit scope category origin message =
      ((host.receive scope sink (message.signal category origin)).1,
        Trace.reading scope
          (asked ++
            [.formatted (message.program.runBounded messageSize).taken
                message.announced,
              .delivery sink (message.signal category origin)] ++
            (host.receive scope sink (message.signal category origin)).2)) := by
  obtain ⟨more, traced, alone⟩ :=
    emitReading_of_open opened origin message
  obtain ⟨nothing, left⟩ := alone idle
  rw [nothing, List.append_nil] at traced
  rw [emit_eq, left, traced]

theorem emit_of_closed
    (closed : host.gate scope category = (none, asked))
    (origin : Origin) (message : Message) :
    host.emit scope category origin message =
      (host, Trace.reading scope asked) := by
  rw [emit_eq, emitReading_of_closed closed]

/-- An accepted message passes the gate once, and reaches the sink alone. -/
theorem passages_emit_of_accepted
    {sink : Sink} {filter : Filter} (idle : host.script = [])
    (sinkHere : (host.hub scope).sink = some sink)
    (filterHere : (host.hub scope).filter = some filter)
    (accepted : filter.accepts host.acceptance category = true)
    (origin : Origin) (message : Message) :
    Trace.passages (host.emit scope category origin message).2 =
      .question filter category :: filter.passedOn category ++
        .formatted (message.program.runBounded messageSize).taken
            message.announced ::
          .delivery sink (message.signal category origin) ::
            sink.passedOn (message.signal category origin) := by
  have opened := gate_of_registered sinkHere filterHere category
  rw [if_pos accepted] at opened
  rw [emit_of_idle idle opened]
  simp [Trace.isPassage]

/-- The signal of an accepted message is delivered before any that a function
of the host emits from inside. -/
theorem deliveries_emit_of_accepted
    {sink : Sink} {filter : Filter}
    (sinkHere : (host.hub scope).sink = some sink)
    (filterHere : (host.hub scope).filter = some filter)
    (accepted : filter.accepts host.acceptance category = true)
    (origin : Origin) (message : Message) :
    Trace.deliveries (host.emit scope category origin message).2 =
      message.signal category origin ::
        Trace.deliveries
          ((host.receive scope sink
            (message.signal category origin)).1.follow sink).2 := by
  have opened := gate_of_registered sinkHere filterHere category
  rw [if_pos accepted] at opened
  have asking :
      Trace.deliveries
        (.question filter category :: filter.passedOn category) = [] :=
    filter.deliveries_passedOn category
  rw [emit_eq, Trace.deliveries_reading, emitReading_eq_follow opened, through,
    Trace.deliveries_append, Trace.deliveries_append, Trace.deliveries_append,
    asking, deliveries_receive]
  rfl

/-- Of a rejected message only the question is left. -/
theorem passages_emit_of_rejected
    {sink : Sink} {filter : Filter}
    (sinkHere : (host.hub scope).sink = some sink)
    (filterHere : (host.hub scope).filter = some filter)
    (rejected : filter.accepts host.acceptance category = false)
    (origin : Origin) (message : Message) :
    Trace.passages (host.emit scope category origin message).2 =
      .question filter category :: filter.passedOn category := by
  have closed := gate_of_registered sinkHere filterHere category
  rw [if_neg (Bool.not_eq_true _ ▸ rejected)] at closed
  rw [emit_of_closed closed]
  simp [Trace.isPassage]

theorem passages_emit_of_missing
    (missing : (host.hub scope).sink = none ∨ (host.hub scope).filter = none)
    (category : String) (origin : Origin) (message : Message) :
    Trace.passages (host.emit scope category origin message).2 = [] := by
  rw [emit_of_closed (gate_of_missing missing category)]
  simp

/-- An emission changes the sink by the signals that it delivers, and nothing
else of the hub. -/
theorem emit_frame
    (idle : host.script = []) (category : String) (origin : Origin)
    (message : Message) :
    (host.emit scope category origin message).1.hub scope =
        { host.hub scope with
            sink :=
              (host.hub scope).sink.map
                (·.given (host.emit scope category origin message).2.deliveries) } ∧
      (host.emit scope category origin message).1.script = host.script ∧
        (host.emit scope category origin message).1.acceptance =
          host.acceptance := by
  obtain ⟨undelivered, through⟩ := host.gate_cases scope category
  cases opened : (host.gate scope category).1 with
  | none =>
      have closed :
          host.gate scope category =
            (none, (host.gate scope category).2) :=
        Prod.ext opened rfl
      rw [emit_of_closed closed]
      simp [undelivered]
  | some sink =>
      have passable :
          host.gate scope category =
            (some sink, (host.gate scope category).2) :=
        Prod.ext opened rfl
      have sinkHere := through sink opened
      have frame :=
        host.receive_frame scope sink (message.signal category origin) sinkHere
      have delivered :
          Trace.deliveries
              [.formatted (message.program.runBounded messageSize).taken
                  message.announced,
                .delivery sink (message.signal category origin)] =
            [message.signal category origin] := rfl
      rw [emit_of_idle idle passable]
      simpa only [Trace.deliveries_reading, Trace.deliveries_append,
        undelivered, delivered, deliveries_receive, List.nil_append,
        List.append_nil, sinkHere, Option.map_some] using frame

end Emission

end Host

end SignalHub
