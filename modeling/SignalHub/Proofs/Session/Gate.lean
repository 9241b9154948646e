import Mathlib.Data.List.Induction
import SignalHub.Proofs.Emission
import SignalHub.Proofs.Session.Reach

/-!
# The gate over whole sessions

Sinks, filters and emissions in any order: each emission meets the sink and the
filter that were registered last, whatever was registered and emitted before.
-/

namespace SignalHub

open Text

/-- What a caller asks to have emitted. -/
structure Emission where
  category : String
  origin : Origin
  message : Message

namespace Step

/-- What a step emits.  An index outside of the severity table emits
nothing. -/
def emission? : Step → Option Emission
  | .emit category origin message => some ⟨category, origin, message⟩
  | .emitBySeverity level origin message =>
      (Severity.ofIndex? level).map fun severity =>
        ⟨severity.name, origin, message⟩
  | .emitAssertion origin text =>
      some ⟨Severity.warning.name, origin, Message.text text⟩
  | .emitSystemFault level text code origin =>
      (Severity.ofIndex? level).map fun severity =>
        ⟨severity.name, origin, Message.systemFault text code⟩
  | _ => none

/-- Registrations and emissions, of functions that do not act from inside. -/
def ConcernsGate : Step → Prop
  | .setSink _ script => script.getD [] = []
  | .setFilter _ _ => True
  | .emit _ _ _ | .emitBySeverity _ _ _ => True
  | .emitAssertion _ _ | .emitSystemFault _ _ _ _ => True
  | _ => False

/-- The sink that a step registers, if it is such a registration. -/
def sink? : Step → Option (Option Sink)
  | .setSink sink _ => some sink
  | _ => none

/-- The filter that a step registers, if it is such a registration. -/
def filter? : Step → Option (Option Filter)
  | .setFilter filter _ => some filter
  | _ => none

/-- What the foreign filter function accepts after a step that says so. -/
def acceptance? : Step → Option Acceptance
  | .setFilter _ acceptance => acceptance
  | _ => none

end Step

/-! ## What was registered last -/

/-- The sink that was registered last, if there is one. -/
def lastSink (steps : List Step) : Option Sink :=
  (steps.filterMap Step.sink?).getLast?.join

/-- The filter that was registered last, if there is one. -/
def lastFilter (steps : List Step) : Option Filter :=
  (steps.filterMap Step.filter?).getLast?.join

def lastAcceptance (steps : List Step) : Acceptance :=
  (steps.filterMap Step.acceptance?).getLast?.getD none

/-- The signals that were delivered since a sink was registered last. -/
def heard (steps : List Step) (answers : List Answer) : List Signal :=
  ((steps.zip answers).reverse.takeWhile
      fun entry => entry.1.sink?.isNone).reverse.flatMap
    fun entry => entry.2.trace.deliveries

section Last

variable (steps : List Step) (step : Step)

theorem lastSink_concat :
    lastSink (steps ++ [step]) = step.sink?.getD (lastSink steps) := by
  rw [lastSink, List.filterMap_append]
  cases registered : step.sink? with
  | none => simp [lastSink, registered]
  | some sink => simp [registered]

theorem lastFilter_concat :
    lastFilter (steps ++ [step]) = step.filter?.getD (lastFilter steps) := by
  rw [lastFilter, List.filterMap_append]
  cases registered : step.filter? with
  | none => simp [lastFilter, registered]
  | some filter => simp [registered]

theorem lastAcceptance_concat :
    lastAcceptance (steps ++ [step]) =
      step.acceptance?.getD (lastAcceptance steps) := by
  rw [lastAcceptance, List.filterMap_append]
  cases registered : step.acceptance? with
  | none => simp [lastAcceptance, registered]
  | some acceptance => simp [registered]

theorem heard_concat
    {answers : List Answer} (paired : answers.length = steps.length)
    (answer : Answer) :
    heard (steps ++ [step]) (answers ++ [answer]) =
      if step.sink?.isNone then heard steps answers ++ answer.trace.deliveries
      else [] := by
  rw [heard, List.zip_append paired.symm, List.zip_cons_cons,
    List.reverse_append]
  cases registered : step.sink? with
  | none => simp [heard, registered]
  | some sink => simp [registered]

end Last

/-! ## The hub during a run -/

namespace Session

/-- The hub is as the last registrations and the signals since then made it,
and nobody will act from inside. -/
structure Registered
    (steps : List Step) (answers : List Answer) (session : Session) :
    Prop where
  sink : session.hub.sink = (lastSink steps).map (·.given (heard steps answers))
  filter : session.hub.filter = lastFilter steps
  acceptance : session.host.acceptance = lastAcceptance steps
  idle : session.host.script = []

@[simp]
theorem hub_settle (session : Session) : session.settle.hub = session.hub :=
  Host.hub_withPorts session.host _ session.scope

theorem perform_of_emission
    {step : Step} {emission : Emission}
    (emits : step.emission? = some emission) (session : Session) :
    session.perform step =
      ({ session with
          host :=
            (session.host.emit session.scope emission.category
              emission.origin emission.message).1 },
        (session.host.emit session.scope emission.category
          emission.origin emission.message).2,
        .nothing) := by
  cases step with
  | emit category origin message =>
      cases emits
      rfl
  | emitAssertion origin text =>
      cases emits
      rfl
  | emitBySeverity level origin message =>
      obtain ⟨severity, inside, rfl⟩ := Option.map_eq_some_iff.mp emits
      rw [perform, bySeverity, Severity.ofIndex, inside]
      rfl
  | emitSystemFault level text code origin =>
      obtain ⟨severity, inside, rfl⟩ := Option.map_eq_some_iff.mp emits
      rw [perform, bySeverity, Severity.ofIndex, inside]
      rfl
  | _ => cases emits

theorem registers_nothing_of_emission
    {step : Step} {emission : Emission}
    (emits : step.emission? = some emission) :
    step.sink? = none ∧ step.filter? = none ∧ step.acceptance? = none := by
  cases step with
  | emit | emitBySeverity | emitAssertion | emitSystemFault =>
      exact ⟨rfl, rfl, rfl⟩
  | _ => cases emits

section Registered

variable {steps : List Step} {answers : List Answer} {session : Session}

/-- An emission registers nothing; the sink has what the answer shows as
delivered. -/
theorem Registered.emission
    (registered : session.Registered steps answers)
    (paired : answers.length = steps.length)
    {step : Step} {emission : Emission}
    (emits : step.emission? = some emission) :
    ∃ after,
      session.next step = some after ∧
        after.scope = session.scope ∧
          after.Registered (steps ++ [step])
            (answers ++ [session.answer step]) := by
  have performed := perform_of_emission emits session
  obtain ⟨sinkless, filterless, unsaid⟩ :=
    registers_nothing_of_emission emits
  obtain ⟨hubAfter, scriptAfter, acceptanceAfter⟩ :=
    Host.emit_frame registered.idle
      emission.category emission.origin emission.message
  have delivered :
      (session.answer step).trace.deliveries =
        Trace.deliveries
          (session.host.emit session.scope emission.category
            emission.origin emission.message).2 := by
    rw [trace_answer, performed, Trace.deliveries_upTo]
  refine ⟨_, next_of_reply performed (by decide), rfl, ?_⟩
  constructor
  · rw [hub_settle, hub, hubAfter, lastSink_concat, heard_concat _ _ paired,
      sinkless, delivered]
    have sinkBefore := registered.sink
    rw [hub] at sinkBefore
    simp [sinkBefore, Function.comp_def]
  · rw [hub_settle, hub, hubAfter, lastFilter_concat, filterless]
    exact registered.filter
  · rw [lastAcceptance_concat, unsaid]
    exact acceptanceAfter.trans registered.acceptance
  · exact scriptAfter.trans registered.idle

/-- A refused index leaves everything as it was. -/
theorem Registered.refused
    (registered : session.Registered steps answers)
    (paired : answers.length = steps.length)
    {step : Step} {fault : CallFault}
    (performed : session.perform step = (session, [], .refused fault))
    (sinkless : step.sink? = none) (filterless : step.filter? = none)
    (unsaid : step.acceptance? = none) :
    ∃ after,
      session.next step = some after ∧
        after.scope = session.scope ∧
          after.Registered (steps ++ [step])
            (answers ++ [session.answer step]) := by
  refine ⟨_, next_of_reply performed (by simp), rfl, ?_⟩
  constructor
  · rw [hub_settle, lastSink_concat, heard_concat _ _ paired, trace_answer,
      performed, sinkless]
    simpa using registered.sink
  · rw [hub_settle, lastFilter_concat, filterless]
    exact registered.filter
  · rw [lastAcceptance_concat, unsaid]
    exact registered.acceptance
  · exact registered.idle

theorem Registered.setSink
    (registered : session.Registered steps answers)
    (paired : answers.length = steps.length)
    (sink : Option Sink) {script : Option (List Action)}
    (calm : script.getD [] = []) :
    ∃ after,
      session.next (.setSink sink script) = some after ∧
        after.scope = session.scope ∧
          after.Registered (steps ++ [.setSink sink script])
            (answers ++ [session.answer (.setSink sink script)]) := by
  have idle : script.getD session.host.script = [] := by
    cases script with
    | none => exact registered.idle
    | some actions => exact calm
  refine ⟨_, next_of_reply rfl (by decide), rfl, ?_⟩
  constructor
  · rw [hub_settle, hub, Host.hub_withScript, Host.hub_setSink,
      lastSink_concat, heard_concat _ _ paired]
    simp [Step.sink?]
  · rw [hub_settle, hub, Host.hub_withScript, Host.hub_setSink,
      lastFilter_concat]
    exact registered.filter
  · rw [lastAcceptance_concat]
    exact (Host.acceptance_setSink _ _ _).trans registered.acceptance
  · exact
      (congrArg script.getD (Host.script_setSink _ _ _)).trans idle

theorem Registered.setFilter
    (registered : session.Registered steps answers)
    (paired : answers.length = steps.length)
    (filter : Option Filter) (acceptance : Option Acceptance) :
    ∃ after,
      session.next (.setFilter filter acceptance) = some after ∧
        after.scope = session.scope ∧
          after.Registered (steps ++ [.setFilter filter acceptance])
            (answers ++ [session.answer (.setFilter filter acceptance)]) := by
  refine ⟨_, next_of_reply rfl (by decide), rfl, ?_⟩
  constructor
  · rw [hub_settle, hub, Host.hub_withAcceptance, Host.hub_setFilter,
      lastSink_concat, heard_concat _ _ paired, trace_answer,
      Trace.deliveries_upTo, perform, Trace.deliveries_writing]
    simpa [Step.sink?, hub] using registered.sink
  · rw [hub_settle, hub, Host.hub_withAcceptance, Host.hub_setFilter,
      lastFilter_concat]
    rfl
  · rw [lastAcceptance_concat, ← registered.acceptance]
    exact congrArg acceptance.getD (Host.acceptance_setFilter _ _ _)
  · exact (Host.script_setFilter _ _ _).trans registered.idle

/-- Every step at the gate goes on, and a registration takes the place of the
one before. -/
theorem Registered.step
    (registered : session.Registered steps answers)
    (paired : answers.length = steps.length)
    {step : Step} (calm : step.ConcernsGate) :
    ∃ after,
      session.next step = some after ∧
        after.scope = session.scope ∧
          after.Registered (steps ++ [step])
            (answers ++ [session.answer step]) := by
  cases emits : step.emission? with
  | some emission => exact registered.emission paired emits
  | none =>
      cases step with
      | setSink sink script => exact registered.setSink paired sink calm
      | setFilter filter acceptance =>
          exact registered.setFilter paired filter acceptance
      | emit | emitAssertion => cases emits
      | emitBySeverity level origin message =>
          have outside := Option.map_eq_none_iff.mp emits
          have performed :
              session.perform (.emitBySeverity level origin message) =
                (session, [], .refused (.invalidSeverity ⟨level⟩)) := by
            rw [perform, bySeverity, Severity.ofIndex, outside]
          exact registered.refused paired performed rfl rfl rfl
      | emitSystemFault level text code origin =>
          have outside := Option.map_eq_none_iff.mp emits
          have performed :
              session.perform (.emitSystemFault level text code origin) =
                (session, [], .refused (.invalidSeverity ⟨level⟩)) := by
            rw [perform, bySeverity, Severity.ofIndex, outside]
          exact registered.refused paired performed rfl rfl rfl
      | _ => exact absurd calm id

/-- Registrations and emissions never end a session, and after them the hub is
as they made it. -/
theorem reach_registered
    (scope : Scope) (paint : Bool) (clock : String) (build : Build)
    (steps : List Step) (calm : ∀ step ∈ steps, step.ConcernsGate) :
    ∃ reached,
      (fresh scope paint clock build).reach steps = some reached ∧
        reached.scope = scope ∧
          reached.Registered steps
            ((fresh scope paint clock build).run steps) := by
  induction steps using List.reverseRecOn with
  | nil =>
      refine ⟨_, rfl, rfl, ?_⟩
      constructor <;> cases scope <;> rfl
  | append_singleton earlier step inductionHypothesis =>
      obtain ⟨reached, arrives, sameScope, registered⟩ :=
        inductionHypothesis
          (fun other member => calm other (List.mem_append_left _ member))
      obtain ⟨after, continues, keptScope, registeredAfter⟩ :=
        registered.step (length_run arrives)
          (calm step (List.mem_append_right _ List.mem_cons_self))
      refine ⟨after, ?_, keptScope.trans sameScope, ?_⟩
      · rw [reach_concat arrives, continues]
      · rw [run_concat arrives]
        exact registeredAfter

end Registered

/-! ## Emissions and questions after a run -/

theorem passages_answer_of_emission
    {step : Step} {emission : Emission}
    (emits : step.emission? = some emission) (session : Session) :
    (session.answer step).trace.passages =
      Trace.passages
        (session.host.emit session.scope emission.category emission.origin
          emission.message).2 := by
  rw [trace_answer, Trace.passages_upTo, perform_of_emission emits]

theorem passages_answer_wants (session : Session) (category : String) :
    (session.answer (.wants category)).trace.passages =
      Trace.passages (session.host.wants session.scope category).2 := by
  rw [trace_answer, Trace.passages_upTo]
  exact Trace.passages_reading _ session.scope

theorem reply_answer_wants (session : Session) (category : String) :
    (session.answer (.wants category)).reply =
      .truth (session.host.wants session.scope category).1 := by
  rw [reply_answer]
  rfl

/-- How an emission ends, and a question about its category in the same state,
when these are the sink and the filter of the hub. -/
structure GateOutcome
    (sink : Option Sink) (filter : Option Filter) (acceptance : Acceptance)
    (emission : Emission) (emitted asked : Answer) : Prop where
  reply : emitted.reply = .nothing
  /-- One question, then one formatting, then one delivery. -/
  accepted : ∀ receiver judge,
    sink = some receiver → filter = some judge →
      judge.accepts acceptance emission.category = true →
        ∃ cut,
          LongestFitting 249
              (emission.message.program.offeredBounded messageSize) cut ∧
            emitted.trace.passages =
              .question judge emission.category ::
                judge.passedOn emission.category ++
                .formatted
                    (emission.message.program.runBounded messageSize).taken
                    emission.message.announced ::
                  .delivery receiver
                      ⟨emission.category, emission.origin, cut⟩ ::
                    receiver.passedOn
                      ⟨emission.category, emission.origin, cut⟩ ∧
            asked.reply = .truth true ∧
            asked.trace.passages =
              .question judge emission.category ::
                judge.passedOn emission.category
  /-- One question, and nothing after it. -/
  rejected : ∀ receiver judge,
    sink = some receiver → filter = some judge →
      judge.accepts acceptance emission.category = false →
        emitted.trace.passages =
            .question judge emission.category ::
              judge.passedOn emission.category ∧
          asked.reply = .truth false ∧
          asked.trace.passages = emitted.trace.passages
  /-- Nothing at all. -/
  missing :
    sink = none ∨ filter = none →
      emitted.trace.passages = [] ∧
        asked.reply = .truth false ∧
        asked.trace.passages = []

/-- Emitting and asking agree with each other and with what is registered, in
every state in which nobody acts from inside. -/
theorem gateOutcome
    {session : Session} (idle : session.host.script = [])
    {step : Step} {emission : Emission}
    (emits : step.emission? = some emission) :
    GateOutcome session.hub.sink session.hub.filter session.host.acceptance
      emission (session.answer step)
      (session.answer (.wants emission.category)) := by
  constructor
  · rw [reply_answer, perform_of_emission emits]
  · intro receiver judge sinkHere filterHere accepted
    refine ⟨_,
      emission.message.longestFitting_signal emission.category
        emission.origin,
      ?_, ?_, ?_⟩
    · rw [passages_answer_of_emission emits]
      exact
        Host.passages_emit_of_accepted idle sinkHere filterHere accepted
          emission.origin emission.message
    · rw [reply_answer_wants, Host.wants_of_registered sinkHere filterHere]
      exact congrArg Reply.truth accepted
    · rw [passages_answer_wants, Host.wants_of_registered sinkHere filterHere]
      simp [Trace.isPassage]
  · intro receiver judge sinkHere filterHere rejected
    have question :=
      Host.passages_emit_of_rejected sinkHere filterHere rejected
        emission.origin emission.message
    rw [passages_answer_of_emission emits, question, reply_answer_wants,
      passages_answer_wants, Host.wants_of_registered sinkHere filterHere]
    refine ⟨rfl, congrArg Reply.truth rejected, ?_⟩
    simp [Trace.isPassage]
  · intro missing
    rw [passages_answer_of_emission emits, reply_answer_wants,
      passages_answer_wants, Host.wants_of_missing missing]
    exact ⟨Host.passages_emit_of_missing missing _ _ _, rfl, rfl⟩

/-- Whatever was registered and emitted before, an emission meets the sink and
the filter that were registered last, and no others; the sink holds what it was
given since. -/
theorem emission_meets_last_registrations
    (scope : Scope) (paint : Bool) (clock : String) (build : Build)
    (before rest : List Step) (step : Step) (emission : Emission)
    (calm : ∀ earlier ∈ before, earlier.ConcernsGate)
    (emits : step.emission? = some emission) :
    ∃ emitted asked,
      ((fresh scope paint clock build).run
          (before ++ step :: rest))[before.length]? = some emitted ∧
        ((fresh scope paint clock build).run
          (before ++ .wants emission.category :: rest))[before.length]? =
            some asked ∧
        GateOutcome
          ((lastSink before).map
            (·.given
              (heard before ((fresh scope paint clock build).run before))))
          (lastFilter before) (lastAcceptance before)
          emission emitted asked := by
  obtain ⟨reached, arrives, _, registered⟩ :=
    reach_registered scope paint clock build before calm
  refine ⟨_, _, getElem?_run arrives step rest,
    getElem?_run arrives (.wants emission.category) rest, ?_⟩
  rw [← registered.sink, ← registered.filter, ← registered.acceptance]
  exact gateOutcome registered.idle emits

/-- A callback takes the place of a buffer; the buffer hears nothing. -/
theorem emission_meets_last_registrations_replaced :
    ∃ emitted,
      ((fresh .own false "" (Build.current "" "")).run
          [.setSink (some (.buffering none [])) none,
            .setFilter (some .all) none,
            .setSink (some .callback) none,
            .emitAssertion ⟨"gc.c", "fullGC", 7⟩ "stack"])[3]? =
          some emitted ∧
        emitted.trace.passages =
          [.question .all "WARNING", .formatted 1 false,
            .delivery .callback ⟨"WARNING", ⟨"gc.c", "fullGC", 7⟩, "stack"⟩,
            .received .native
              ⟨"WARNING", ⟨"gc.c", "fullGC", 7⟩, "stack"⟩] := by
  have calm :
      ∀ earlier ∈
        [Step.setSink (some (.buffering none [])) none,
          .setFilter (some .all) none, .setSink (some .callback) none],
        earlier.ConcernsGate := by
    intro earlier member
    simp only [List.mem_cons, List.not_mem_nil, or_false] at member
    rcases member with rfl | rfl | rfl
    · rfl
    · trivial
    · rfl
  obtain ⟨emitted, asked, answered, _, outcome⟩ :=
    emission_meets_last_registrations .own false "" (Build.current "" "")
      [.setSink (some (.buffering none [])) none, .setFilter (some .all) none,
        .setSink (some .callback) none]
      [] (.emitAssertion ⟨"gc.c", "fullGC", 7⟩ "stack")
      ⟨"WARNING", ⟨"gc.c", "fullGC", 7⟩, Message.text "stack"⟩ calm rfl
  obtain ⟨cut, longest, passages, _⟩ :=
    outcome.accepted .callback .all rfl rfl rfl
  have whole : cut = "stack" := by
    have offered := longest.eq_of_fits
    rw [Message.text, Formatter.offeredBounded_text] at offered
    exact offered (by decide)
  rw [whole] at passages
  exact ⟨emitted, answered, passages⟩

end Session

end SignalHub
