import SignalHub.Proofs.Separation
import SignalHub.Proofs.Session.Emitting
import SignalHub.Proofs.Session.Fatal

/-!
# Signals and output, apart

Steps that concern one side of the hub leave the other as it is, and do the same
whatever the other is like.  So the answers on one side stay when all steps of the
other are left out.
-/

namespace SignalHub

open Output Text

/-- What a step is about, if only about one side. -/
inductive Concern where
  | signals
  | output
deriving DecidableEq, Repr

namespace ForeignCall

def concern? : ForeignCall → Option Concern
  | .setSink _ _ | .setFilter _ _ => some .signals
  | .emit _ _ _ _ _ | .emitBySeverity _ _ _ _ _ => some .signals
  | .emitAssertion _ _ _ _ | .emitSystemFault _ _ _ _ _ _ => some .signals
  | .setStream _ | .print _ | .fileContent _ => some .output
  | _ => none

end ForeignCall

namespace Step

def concern? : Step → Option Concern
  | .setSink _ _ | .setFilter _ _ => some .signals
  | .hasSink | .hasFilter | .wants _ | .sinkIs _ => some .signals
  | .emit _ _ _ | .emitBySeverity _ _ _ => some .signals
  | .emitAssertion _ _ | .emitSystemFault _ _ _ _ => some .signals
  | .poll | .bufferState => some .signals
  | .setOutput _ | .print _ | .flush => some .output
  | .isConfigured | .describeOutput => some .output
  | .foreign call => call.concern?
  | _ => none

/-- A step that goes on, and registers no sink whose function would call the hub
again. -/
def isCalm : Step → Bool
  | .setSink _ script => (script.getD []).isEmpty
  | .foreign (.setSink _ script) => script.isEmpty
  | .fatal _ _ | .foreign (.fatal _ _ _) => false
  | _ => true

end Step

/-! ## Steps on their side -/

namespace Session

/-- The two sides of a session. -/
def side (concern : Concern) (session : Session) : Session :=
  match concern with
  | .signals => { session with host := session.host.gated }
  | .output => { session with host := session.host.printing }

/-- A step does the same when only one side is there. -/
def StaysOn (concern : Concern) (session : Session) (step : Step) : Prop :=
  ((session.side concern).perform step).2 = (session.perform step).2 ∧
    ((session.side concern).perform step).1.side concern =
      (session.perform step).1.side concern

section Steps

variable {session : Session} {step : Step}

theorem staysOn_of_isEmission
    (idle : session.host.script = []) (asks : step.isEmission = true) :
    session.StaysOn .signals step := by
  rcases Step.emits_or_refuses asks session.scope with
    ⟨scope, emission, emits⟩ | ⟨trace, reply, refuses⟩
  · have emitsThere :
        step.emissionOn? (session.side .signals).scope =
          some (scope, emission) := emits
    obtain ⟨trace, host⟩ :=
      session.host.emit_gated scope emission.category idle emission.origin
        emission.message
    rw [StaysOn, perform_of_emissionOn emits, perform_of_emissionOn emitsThere]
    exact
      ⟨congrArg (·, Reply.nothing) trace,
        congrArg (fun host => { session with host }) host⟩
  · rw [StaysOn, perform_of_refusal refuses, perform_of_refusal refuses]
    exact ⟨rfl, rfl⟩

/-- Steps about signals do the same whatever texts are printed on. -/
theorem staysOn_signals
    (idle : session.host.script = [])
    (concerns : step.concern? = some .signals) :
    session.StaysOn .signals step := by
  cases step with
  | setSink | setFilter | hasSink | hasFilter | sinkIs | bufferState =>
      obtain ⟨host, scope, maximum, build⟩ := session
      cases scope <;> exact ⟨rfl, rfl⟩
  | emit | emitBySeverity | emitAssertion | emitSystemFault =>
      exact staysOn_of_isEmission idle rfl
  | wants category =>
      obtain ⟨_, wants⟩ := session.host.gate_gated session.scope category
      exact
        ⟨congrArg
            (fun answer : Bool × Trace =>
              (Trace.reading session.scope answer.2, Reply.truth answer.1))
            wants,
          rfl⟩
  | poll =>
      obtain ⟨rest, after⟩ := session.host.pollBuffer_gated session.scope
      exact
        ⟨congrArg
            (fun polled : Trace × Option (List Signal) =>
              (Trace.reading session.scope polled.1, Reply.ofPolled polled.2))
            rest,
          congrArg (fun host => { session with host }) after⟩
  | foreign call =>
      cases call with
      | setSink | setFilter => exact ⟨rfl, rfl⟩
      | emit | emitBySeverity | emitAssertion | emitSystemFault =>
          exact staysOn_of_isEmission idle rfl
      | _ => cases concerns
  | _ => cases concerns

/-- Steps about output do the same whatever signals meet. -/
theorem staysOn_output
    (concerns : step.concern? = some .output) :
    session.StaysOn .output step := by
  cases step with
  | setOutput target =>
      obtain ⟨rest, after⟩ :=
        session.host.setOutput_printing session.scope target
      exact
        ⟨congrArg (·, Reply.nothing) rest,
          congrArg (fun host => { session with host }) after⟩
  | print message =>
      obtain ⟨rest, after⟩ :=
        session.host.printReading_printing session.scope message
      exact
        ⟨congrArg
            (fun result : Trace × Except CallFault Nat =>
              (Trace.reading session.scope result.1, Reply.ofCount result.2))
            rest,
          congrArg (fun host => { session with host }) after⟩
  | flush =>
      obtain ⟨rest, after⟩ := session.host.flushOutput_printing session.scope
      exact
        ⟨congrArg
            (fun result : Trace × Option Fault =>
              (Trace.reading session.scope result.1, Reply.ofFault result.2))
            rest,
          congrArg (fun host => { session with host }) after⟩
  | isConfigured | describeOutput =>
      obtain ⟨host, scope, maximum, build⟩ := session
      cases scope <;> exact ⟨rfl, rfl⟩
  | foreign call =>
      cases call with
      | setStream stream =>
          obtain ⟨rest, after⟩ := session.host.foreign_setStream_printing stream
          exact
            ⟨congrArg (·, Reply.nothing) rest,
              congrArg (fun host => { session with host }) after⟩
      | print message =>
          obtain ⟨rest, after⟩ := session.host.foreign_print_printing message
          exact
            ⟨congrArg
                (fun result : Trace × Int =>
                  (result.1, Reply.number result.2)) rest,
              congrArg (fun host => { session with host }) after⟩
      | fileContent name => exact ⟨rfl, rfl⟩
      | _ => cases concerns
  | _ => cases concerns

/-- Steps about one side leave the other as it is. -/
theorem side_output_of_signals
    (idle : session.host.script = [])
    (concerns : step.concern? = some .signals) :
    (session.perform step).1.side .output = session.side .output := by
  have emission :
      step.isEmission = true →
        (session.perform step).1.side .output = session.side .output := by
    intro asks
    rcases Step.emits_or_refuses asks session.scope with
      ⟨scope, emission, emits⟩ | ⟨trace, reply, refuses⟩
    · rw [perform_of_emissionOn emits]
      exact
        congrArg (fun host => { session with host })
          (session.host.printing_emit scope emission.category idle
            emission.origin emission.message)
    · rw [perform_of_refusal refuses]
  cases step with
  | setSink | setFilter =>
      obtain ⟨host, scope, maximum, build⟩ := session
      cases scope <;> rfl
  | hasSink | hasFilter | sinkIs | bufferState | wants => rfl
  | emit | emitBySeverity | emitAssertion | emitSystemFault =>
      exact emission rfl
  | poll =>
      exact
        congrArg (fun host => { session with host })
          (session.host.printing_pollBuffer session.scope)
  | foreign call =>
      cases call with
      | setSink | setFilter => rfl
      | emit | emitBySeverity | emitAssertion | emitSystemFault =>
          exact emission rfl
      | _ => cases concerns
  | _ => cases concerns

theorem side_signals_of_output
    (concerns : step.concern? = some .output) :
    (session.perform step).1.side .signals = session.side .signals := by
  have host : (session.perform step).1.host.gated = session.host.gated := by
    cases step with
    | setOutput | flush =>
        exact session.host.gated_setChannel session.scope _ _
    | print message => exact session.host.gated_printReading session.scope _
    | isConfigured | describeOutput => rfl
    | foreign call =>
        cases call with
        | setStream stream => exact session.host.gated_foreign_setStream stream
        | print message => exact session.host.gated_foreign_print message
        | fileContent name => rfl
        | _ => cases concerns
    | _ => cases concerns
  have rest : ∀ host : Host,
      { (session.perform step).1 with host } = { session with host } := by
    intro host
    cases step with
    | foreign call => rfl
    | setOutput | flush | print | isConfigured | describeOutput => rfl
    | _ => cases concerns
  rw [side, side, host, rest]

/-- Steps about neither side go on alike on each. -/
theorem side_of_neither
    (calm : step.isCalm = true) (concerns : step.concern? = none)
    (concern : Concern) :
    ((session.side concern).perform step).1.side concern =
      (session.perform step).1.side concern := by
  obtain ⟨host, scope, maximum, build⟩ := session
  cases step with
  | setStatusPrinter | setMaximum | describe =>
      cases concern <;> cases scope <;> rfl
  | fatal => cases calm
  | foreign call =>
      cases call with
      | setStatusPrinter | setLevel | level | debugs | versionText
      | freeVersionText | crashDumpName =>
          cases concern <;> cases scope <;> rfl
      | fatal => cases calm
      | _ => cases concerns
  | _ => cases concerns

/-- After a calm step there is nobody who would act. -/
theorem idle_of_calm
    (idle : session.host.script = []) (calm : step.isCalm = true) :
    (session.perform step).1.host.script = [] := by
  have emission :
      step.isEmission = true → (session.perform step).1.host.script = [] := by
    intro asks
    rcases Step.emits_or_refuses asks session.scope with
      ⟨scope, emission, emits⟩ | ⟨trace, reply, refuses⟩
    · have script :
          (session.host.emitted scope emission).1.script =
            session.host.script :=
        (Host.emit_frame idle emission.category emission.origin
          emission.message).2.1
      rw [perform_of_emissionOn emits]
      exact script.trans idle
    · rw [perform_of_refusal refuses]
      exact idle
  cases concerns : step.concern? with
  | none =>
      obtain ⟨host, scope, maximum, build⟩ := session
      cases step with
      | setStatusPrinter => cases scope <;> exact idle
      | setMaximum | describe => exact idle
      | fatal => cases calm
      | foreign call =>
          cases call with
          | fatal => cases calm
          | setStatusPrinter | setLevel | level | debugs | versionText
          | freeVersionText | crashDumpName => exact idle
          | _ => cases concerns
      | _ => cases concerns
  | some concern =>
      cases concern with
      | output =>
          have unchanged :
              (session.perform step).1.side .signals =
                session.side .signals :=
            side_signals_of_output concerns
          exact
            (congrArg (fun side => side.host.script) unchanged).trans idle
      | signals =>
          cases step with
          | emit | emitBySeverity | emitAssertion | emitSystemFault =>
              exact emission rfl
          | setSink sink script =>
              cases script with
              | none =>
                  exact
                    (session.host.script_setSink session.scope sink).trans idle
              | some script => exact List.isEmpty_iff.mp calm
          | setFilter filter acceptance =>
              exact
                (session.host.script_setFilter session.scope filter).trans idle
          | poll =>
              exact (session.host.script_pollBuffer session.scope).trans idle
          | hasSink | hasFilter | wants | sinkIs | bufferState => exact idle
          | foreign call =>
              cases call with
              | emit | emitBySeverity | emitAssertion | emitSystemFault =>
                  exact emission rfl
              | setSink present script => exact List.isEmpty_iff.mp calm
              | setFilter => exact idle
              | _ => cases concerns
          | _ => cases concerns

theorem goesOn_of_calm
    (calm : step.isCalm = true) : (session.perform step).2.2 ≠ .aborted := by
  apply goesOn_of_survived
  cases step with
  | fatal => cases calm
  | foreign call =>
      cases call with
      | fatal => cases calm
      | _ => rfl
  | _ => rfl

end Steps

/-! ## What is not to be seen -/

section Unseen

variable {session : Session} {step : Step}

theorem isPrinting_of_output
    (concerns : step.concern? = some .output) :
    (session.perform step).2.1.all Trace.isPrinting := by
  cases step with
  | setOutput target => exact session.host.isPrinting_setOutput session.scope target
  | print message =>
      exact
        Trace.all_reading (fun _ => rfl) session.scope
          (session.host.isPrinting_printReading session.scope message)
  | flush =>
      exact
        Trace.all_reading (fun _ => rfl) session.scope
          (session.host.isPrinting_flushOutput session.scope)
  | isConfigured | describeOutput => rfl
  | foreign call =>
      cases call with
      | setStream stream =>
          cases stream with
          | none => exact session.host.isPrinting_setOutput .shared none
          | some opened =>
              exact Host.isPrinting_setOutput _ .shared (some (.file opened.1))
      | print message => exact session.host.isPrinting_foreign_print message
      | fileContent name => rfl
      | _ => cases concerns
  | _ => cases concerns

theorem conveyance_of_signals
    (idle : session.host.script = [])
    (concerns : step.concern? = some .signals) :
    (session.perform step).2.1.all Trace.isConveyance := by
  have emission :
      step.isEmission = true →
        (session.perform step).2.1.all Trace.isConveyance := by
    intro asks
    rcases Step.emits_or_refuses asks session.scope with
      ⟨scope, emission, emits⟩ | ⟨trace, reply, refuses⟩
    · rw [perform_of_emissionOn emits]
      exact session.host.conveyance_emit scope idle _ _ _
    · rw [perform_of_refusal refuses]
      exact Step.conveyance_of_refusal refuses
  cases step with
  | emit | emitBySeverity | emitAssertion | emitSystemFault =>
      exact emission rfl
  | setSink | setFilter =>
      exact Trace.all_writing (fun _ => rfl) session.scope rfl
  | hasSink | hasFilter | sinkIs | bufferState => rfl
  | wants category =>
      obtain ⟨_, asks⟩ := session.host.asking_gate session.scope category
      exact
        Trace.all_reading (fun _ => rfl) session.scope
          (Trace.conveyance_of_asking asks)
  | poll =>
      exact
        Trace.all_reading (fun _ => rfl) session.scope
          (session.host.conveyance_pollBuffer session.scope)
  | foreign call =>
      cases call with
      | emit | emitBySeverity | emitAssertion | emitSystemFault =>
          exact emission rfl
      | setSink | setFilter => rfl
      | _ => cases concerns
  | _ => cases concerns

theorem quiet_of_neither
    (calm : step.isCalm = true) (concerns : step.concern? = none) :
    (session.perform step).2.1.all Trace.isPrinting ∧
      (session.perform step).2.1.all Trace.isConveyance := by
  cases step with
  | setStatusPrinter =>
      exact
        ⟨Trace.all_writing (fun _ => rfl) session.scope rfl,
          Trace.all_writing (fun _ => rfl) session.scope rfl⟩
  | setMaximum | describe => exact ⟨rfl, rfl⟩
  | fatal => cases calm
  | foreign call =>
      cases call with
      | fatal => cases calm
      | setStatusPrinter | setLevel | level | debugs | versionText
      | freeVersionText | crashDumpName => exact ⟨rfl, rfl⟩
      | _ => cases concerns
  | _ => cases concerns

theorem deliveries_of_elsewhere
    (calm : step.isCalm = true) (elsewhere : step.concern? ≠ some .signals) :
    (session.perform step).2.1.deliveries = [] := by
  apply Trace.deliveries_of_printing
  cases concerns : step.concern? with
  | none => exact (quiet_of_neither calm concerns).1
  | some concern =>
      cases concern with
      | signals => exact absurd concerns elsewhere
      | output => exact isPrinting_of_output concerns

theorem transfers_of_elsewhere
    (idle : session.host.script = []) (calm : step.isCalm = true)
    (elsewhere : step.concern? ≠ some .output) :
    (session.perform step).2.1.transfers = [] := by
  apply Trace.transfers_of_conveyance
  cases concerns : step.concern? with
  | none => exact (quiet_of_neither calm concerns).2
  | some concern =>
      cases concern with
      | signals => exact conveyance_of_signals idle concerns
      | output => exact absurd concerns elsewhere

end Unseen

/-! ## Whole runs -/

/-- The answers to the steps of a run that concern one side. -/
def answersAbout
    (concern : Concern) (steps : List Step) (answers : List Answer) :
    List Answer :=
  ((steps.zip answers).filter
    fun entry => entry.1.concern? == some concern).map Prod.snd

/-- The steps that do not concern one side. -/
def without (concern : Concern) (steps : List Step) : List Step :=
  steps.filter fun step => step.concern? != some concern

section Runs

variable {left right : Session} {step : Step} {concern other : Concern}

theorem maximum_side (concern : Concern) (session : Session) :
    (session.side concern).maximum = session.maximum := by
  cases concern <;> rfl

theorem side_settle (concern : Concern) (session : Session) :
    session.settle.side concern = session.side concern := by
  cases concern <;> rfl

theorem next_of_calm (calm : step.isCalm = true) (session : Session) :
    session.next step = some (session.perform step).1.settle :=
  next_of_reply rfl (goesOn_of_calm calm)

theorem answer_congr
    (same : (left.perform step).2 = (right.perform step).2)
    (goesOn : (left.perform step).2.2 ≠ .aborted)
    (maximum :
      (left.perform step).1.maximum = (right.perform step).1.maximum) :
    left.answer step = right.answer step := by
  rw [answer, answer, ← same, answerOf_of_goesOn goesOn,
    answerOf_of_goesOn goesOn, maximum]

/-- Steps about one side are answered alike in sessions that are alike on this
side, and leave them alike. -/
theorem alike_of_concern
    (same : left.side concern = right.side concern)
    (idle : left.host.script = []) (idleToo : right.host.script = [])
    (calm : step.isCalm = true) (concerns : step.concern? = some concern) :
    left.answer step = right.answer step ∧
      (left.perform step).1.side concern =
        (right.perform step).1.side concern := by
  have stays : left.StaysOn concern step ∧ right.StaysOn concern step := by
    cases concern with
    | signals =>
        exact ⟨staysOn_signals idle concerns, staysOn_signals idleToo concerns⟩
    | output => exact ⟨staysOn_output concerns, staysOn_output concerns⟩
  obtain ⟨⟨answer, state⟩, answerToo, stateToo⟩ := stays
  rw [same] at answer state
  have states := state.symm.trans stateToo
  have maximum :=
    congrArg Session.maximum states
  rw [maximum_side, maximum_side] at maximum
  exact
    ⟨answer_congr (answer.symm.trans answerToo) (goesOn_of_calm calm) maximum,
      states⟩

theorem side_of_other
    (different : other ≠ concern) (idle : left.host.script = [])
    (concerns : step.concern? = some other) :
    (left.perform step).1.side concern = left.side concern := by
  cases concern <;> cases other
  · exact absurd rfl different
  · exact side_signals_of_output concerns
  · exact side_output_of_signals idle concerns
  · exact absurd rfl different

theorem concern_of_ne
    {found : Concern} (different : other ≠ concern) (elsewhere : found ≠ other) :
    found = concern := by
  cases found <;> cases other <;> cases concern <;> first | rfl | contradiction

theorem alike_of_kept
    (different : other ≠ concern)
    (same : left.side concern = right.side concern)
    (idle : left.host.script = []) (idleToo : right.host.script = [])
    (calm : step.isCalm = true) (kept : step.concern? ≠ some other) :
    (left.perform step).1.side concern = (right.perform step).1.side concern ∧
      (step.concern? = some concern →
        left.answer step = right.answer step) := by
  cases concerns : step.concern? with
  | none =>
      refine ⟨?_, nofun⟩
      have states :
          ((left.side concern).perform step).1.side concern =
            (left.perform step).1.side concern :=
        side_of_neither calm concerns concern
      rw [← states, same]
      exact side_of_neither calm concerns concern
  | some found =>
      have here : found = concern := by
        apply concern_of_ne different
        rintro rfl
        exact kept concerns
      subst here
      obtain ⟨answer, states⟩ :=
        alike_of_concern same idle idleToo calm concerns
      exact ⟨states, fun _ => answer⟩

section Cons

variable (rest : List Step) (answer : Answer) (answers : List Answer)

theorem answersAbout_cons_of_seen (seen : step.concern? = some concern) :
    answersAbout concern (step :: rest) (answer :: answers) =
      answer :: answersAbout concern rest answers := by
  simp [answersAbout, seen]

theorem answersAbout_cons_of_unseen (unseen : step.concern? ≠ some concern) :
    answersAbout concern (step :: rest) (answer :: answers) =
      answersAbout concern rest answers := by
  simp [answersAbout, unseen]

theorem without_cons_of_dropped (dropped : step.concern? = some other) :
    without other (step :: rest) = without other rest := by
  simp [without, dropped]

theorem without_cons_of_kept (kept : step.concern? ≠ some other) :
    without other (step :: rest) = step :: without other rest := by
  simp [without, kept]

end Cons

/-- Steps about one side are answered as if those about the other had never been
made. -/
theorem answersAbout_without
    (different : other ≠ concern) (steps : List Step)
    (calm : ∀ step ∈ steps, step.isCalm = true)
    (same : left.side concern = right.side concern)
    (idle : left.host.script = []) (idleToo : right.host.script = []) :
    answersAbout concern steps (left.run steps) =
      answersAbout concern (without other steps)
        (right.run (without other steps)) := by
  induction steps generalizing left right with
  | nil => rfl
  | cons step rest inductionHypothesis =>
      obtain ⟨stepCalm, restCalm⟩ := List.forall_mem_cons.mp calm
      have idleThen : (left.perform step).1.settle.host.script = [] :=
        idle_of_calm idle stepCalm
      rw [run_cons_of_next (next_of_calm stepCalm left)]
      -- A dropped step is made on the left only, where it does not touch this
      -- side; any other is made on both.
      by_cases dropped : step.concern? = some other
      · have sameThen :
            (left.perform step).1.settle.side concern = right.side concern := by
          rw [side_settle, side_of_other different idle dropped, same]
        have unseen : step.concern? ≠ some concern := by
          rw [dropped]
          exact fun same => different (Option.some.inj same)
        rw [answersAbout_cons_of_unseen _ _ _ unseen,
          without_cons_of_dropped _ dropped]
        exact inductionHypothesis restCalm sameThen idleThen idleToo
      · obtain ⟨states, answered⟩ :=
          alike_of_kept different same idle idleToo stepCalm dropped
        have idleThenToo : (right.perform step).1.settle.host.script = [] :=
          idle_of_calm idleToo stepCalm
        have sameThen :
            (left.perform step).1.settle.side concern =
              (right.perform step).1.settle.side concern := by
          rw [side_settle, side_settle, states]
        have following :=
          inductionHypothesis restCalm sameThen idleThen idleThenToo
        rw [without_cons_of_kept _ dropped,
          run_cons_of_next (next_of_calm stepCalm right)]
        by_cases seen : step.concern? = some concern
        · rw [answersAbout_cons_of_seen _ _ _ seen,
            answersAbout_cons_of_seen _ _ _ seen, answered seen, following]
        · rw [answersAbout_cons_of_unseen _ _ _ seen,
            answersAbout_cons_of_unseen _ _ _ seen, following]

/-- What is seen of steps about one side only is seen in their answers. -/
theorem flatMap_answersAbout
    {Item : Type} {see : Answer → List Item} {concern : Concern}
    (unseen : ∀ (session : Session) (step : Step),
      session.host.script = [] → step.isCalm = true →
        step.concern? ≠ some concern → see (session.answer step) = [])
    {session : Session} (idle : session.host.script = []) (steps : List Step)
    (calm : ∀ step ∈ steps, step.isCalm = true) :
    (answersAbout concern steps (session.run steps)).flatMap see =
      (session.run steps).flatMap see := by
  induction steps generalizing session with
  | nil => rfl
  | cons step rest inductionHypothesis =>
      obtain ⟨stepCalm, restCalm⟩ := List.forall_mem_cons.mp calm
      have idleThen : (session.perform step).1.settle.host.script = [] :=
        idle_of_calm idle stepCalm
      have following := inductionHypothesis idleThen restCalm
      rw [run_cons_of_next (next_of_calm stepCalm session), List.flatMap_cons,
        ← following]
      by_cases seen : step.concern? = some concern
      · rw [answersAbout_cons_of_seen _ _ _ seen, List.flatMap_cons]
      · rw [answersAbout_cons_of_unseen _ _ _ seen,
          unseen session step idle stepCalm seen, List.nil_append]

theorem length_run_of_calm
    (session : Session) (steps : List Step)
    (calm : ∀ step ∈ steps, step.isCalm = true) :
    (session.run steps).length = steps.length := by
  induction steps generalizing session with
  | nil => rfl
  | cons step rest inductionHypothesis =>
      obtain ⟨stepCalm, restCalm⟩ := List.forall_mem_cons.mp calm
      rw [run_cons_of_next (next_of_calm stepCalm session), List.length_cons,
        List.length_cons, inductionHypothesis _ restCalm]

end Runs

/-- The signals that answers show as delivered. -/
def delivered (answers : List Answer) : List Signal :=
  answers.flatMap fun answer => answer.trace.deliveries

section Totals

variable {session : Session} {steps : List Step}

theorem delivered_answersAbout
    (idle : session.host.script = [])
    (calm : ∀ step ∈ steps, step.isCalm = true) :
    delivered (answersAbout .signals steps (session.run steps)) =
      delivered (session.run steps) := by
  apply flatMap_answersAbout _ idle steps calm
  intro session step _ stepCalm elsewhere
  rw [trace_answer, Trace.deliveries_upTo]
  exact deliveries_of_elsewhere stepCalm elsewhere

theorem traffic_answersAbout
    (idle : session.host.script = [])
    (calm : ∀ step ∈ steps, step.isCalm = true) :
    traffic (answersAbout .output steps (session.run steps)) =
      traffic (session.run steps) := by
  apply flatMap_answersAbout _ idle steps calm
  intro session step idleThen stepCalm elsewhere
  rw [trace_answer, Trace.transfers_upTo]
  exact transfers_of_elsewhere idleThen stepCalm elsewhere

end Totals

/-- The session with another sink and another filter, or with none. -/
def regated (session : Session) (scope : Scope) (sink : Option Sink)
    (filter : Option Filter) : Session :=
  { session with
      host := (session.host.setSink scope sink).setFilter scope filter }

/-- What texts are printed on does not depend on what signals meet: the same
answer is given, and the files of the host are the same afterwards. -/
theorem print_of_regated
    {session : Session} {step : Step} (idle : session.host.script = [])
    (concerns : step.concern? = some .output) (scope : Scope)
    (sink : Option Sink) (filter : Option Filter) :
    (session.regated scope sink filter).answer step = session.answer step ∧
      ((session.regated scope sink filter).perform step).1.host.ports.files =
        (session.perform step).1.host.ports.files := by
  have calm : step.isCalm = true := by
    cases step with
    | setSink | fatal => cases concerns
    | foreign call => cases call <;> first | rfl | cases concerns
    | _ => rfl
  have same :
      (session.regated scope sink filter).side .output =
        session.side .output := by
    cases scope <;> rfl
  have idleToo : (session.regated scope sink filter).host.script = [] := by
    cases scope <;> exact idle
  obtain ⟨answer, states⟩ :=
    alike_of_concern same idleToo idle calm concerns
  exact ⟨answer, congrArg (fun side => side.host.ports.files) states⟩

/-- Nobody calls the hub from inside and nothing aborts: then the answers about
signals are as if no step about output had been made, and the answers about
output as if no step about signals had been.  No signal is lost, changed or
delivered again because of what becomes of the output, no byte is written or
lost because of signals, and a print is the same with any sink and any filter, or
with none. -/
theorem signals_and_output_stay_apart
    (session : Session) (steps : List Step)
    (idle : session.host.script = [])
    (calm : ∀ step ∈ steps, step.isCalm = true) :
    (session.run steps).length = steps.length ∧
      answersAbout .signals steps (session.run steps) =
        answersAbout .signals (without .output steps)
          (session.run (without .output steps)) ∧
      answersAbout .output steps (session.run steps) =
        answersAbout .output (without .signals steps)
          (session.run (without .signals steps)) ∧
      delivered (session.run steps) =
        delivered (session.run (without .output steps)) ∧
      traffic (session.run steps) =
        traffic (session.run (without .signals steps)) ∧
      ∀ step, step.concern? = some .output → ∀ scope sink filter,
        (session.regated scope sink filter).answer step =
            session.answer step ∧
          ((session.regated scope sink filter).perform
              step).1.host.ports.files =
            (session.perform step).1.host.ports.files := by
  have signals :
      answersAbout .signals steps (session.run steps) =
        answersAbout .signals (without .output steps)
          (session.run (without .output steps)) :=
    answersAbout_without (by decide) steps calm rfl idle idle
  have output :
      answersAbout .output steps (session.run steps) =
        answersAbout .output (without .signals steps)
          (session.run (without .signals steps)) :=
    answersAbout_without (by decide) steps calm rfl idle idle
  have calmWithout : ∀ concern, ∀ step ∈ without concern steps,
      step.isCalm = true :=
    fun concern step member => calm step (List.mem_filter.mp member).1
  refine ⟨length_run_of_calm session steps calm, signals, output, ?_, ?_, ?_⟩
  · rw [← delivered_answersAbout idle calm, signals,
      delivered_answersAbout idle (calmWithout .output)]
  · rw [← traffic_answersAbout idle calm, output,
      traffic_answersAbout idle (calmWithout .signals)]
  · intro step concerns scope sink filter
    exact print_of_regated idle concerns scope sink filter

/-- A console sink and a stream that refuses everything: the signal is shown once,
with the refused print or without it. -/
theorem signals_and_output_stay_apart_refused :
    answersAbout .signals
          [.setOutput (some (.stream ⟨"log", Device.full, none, []⟩)),
            .setSink (some .console) none, .setFilter (some .all) none,
            .print (Message.text "lost"),
            .emitAssertion ⟨"gc.c", "fullGC", 7⟩ "kept", .flush]
          ((fresh .shared false "" (Build.current "" "")).run
            [.setOutput (some (.stream ⟨"log", Device.full, none, []⟩)),
              .setSink (some .console) none, .setFilter (some .all) none,
              .print (Message.text "lost"),
              .emitAssertion ⟨"gc.c", "fullGC", 7⟩ "kept", .flush]) =
        answersAbout .signals
          [.setSink (some .console) none, .setFilter (some .all) none,
            .emitAssertion ⟨"gc.c", "fullGC", 7⟩ "kept"]
          ((fresh .shared false "" (Build.current "" "")).run
            [.setSink (some .console) none, .setFilter (some .all) none,
              .emitAssertion ⟨"gc.c", "fullGC", 7⟩ "kept"]) ∧
      ((fresh .shared false "" (Build.current "" "")).regated .shared
            (some .journal) (some .none)).answer
          (.print (Message.text "lost")) =
        (fresh .shared false "" (Build.current "" "")).answer
          (.print (Message.text "lost")) := by
  obtain ⟨_, signals, _, _, _, prints⟩ :=
    signals_and_output_stay_apart
      (fresh .shared false "" (Build.current "" ""))
      [.setOutput (some (.stream ⟨"log", Device.full, none, []⟩)),
        .setSink (some .console) none, .setFilter (some .all) none,
        .print (Message.text "lost"),
        .emitAssertion ⟨"gc.c", "fullGC", 7⟩ "kept", .flush]
      rfl (List.all_eq_true.mp rfl)
  obtain ⟨same, _⟩ :=
    prints (.print (Message.text "lost")) rfl .shared (some .journal)
      (some .none)
  exact ⟨signals, same⟩

end Session

end SignalHub
