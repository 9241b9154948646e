import SignalHub.Proofs.Recording
import SignalHub.Proofs.Session.Emitting
import SignalHub.Proofs.Session.ForeignCalls

/-!
# The journal's maximum

Which records there would be does not depend on the maximum, nor does anything
else that happens.  The maximum decides only which of these records are seen.
-/

namespace SignalHub

open Output Text

namespace Step

/-- The maximum that a step sets, if it does. -/
def maximum? : Step → Option Verbosity
  | .setMaximum maximum => some maximum
  | _ => none

end Step

namespace Host

/-- The host once a file that becomes the foreign side's stream is open. -/
def opening (host : Host) (stream : Option (String × HostFile)) : Host :=
  match stream with
  | none => host
  | some (name, file) =>
      { host with
          ports :=
            match host.ports.file? name with
            | some _ => host.ports
            | none => host.ports.setFile name file }

/-- The records that a foreign call would leave apart from those of signals. -/
def noted (host : Host) : ForeignCall → List Record
  | .emitBySeverity index _ _ _ _ | .emitSystemFault index _ _ _ _ _ =>
      if 0 ≤ index ∧ index ≤ 5 then [] else [outsideRecord index]
  | .print message =>
      if (Foreign.print host message).2.2 < 0 then
        [⟨.debug, "vm_diagnostics::ffi", "vm_printf failed: Input/Output error",
          none⟩]
      else []
  | .setStream stream =>
      flushNote "vm_diagnostics::output"
        ((host.opening stream).flushOutput .shared).2.2
  | .fatal message file line =>
      flushNote "vm_diagnostics::diagnostics"
        (host.fatalPath .shared (Foreign.fatalOrigin file line)
          (incoming message)).fault
  | _ => []

end Host

namespace Session

/-- The records that a step would leave apart from those of signals: of an index
outside of the severity table and of a failed print, if the foreign side calls,
and of a flush that fails before a new output or an abort. -/
def noted (session : Session) : Step → List Record
  | .setOutput _ =>
      Host.flushNote "vm_diagnostics::output"
        (session.host.flushOutput session.scope).2.2
  | .fatal origin message =>
      if message.program.collect.succeeded then
        Host.flushNote "vm_diagnostics::diagnostics"
          (session.host.fatalPath session.scope origin
            message.program.collect.buffer).fault
      else []
  | .foreign call => session.host.noted call
  | _ => []

/-! ## The records of one step -/

section Host

variable (host : Host)

theorem notes_setOutput (scope : Scope) (target : Option Target) :
    Trace.Notes (host.setOutput scope target).2
      (Host.flushNote "vm_diagnostics::output"
        (host.flushOutput scope).2.2) := by
  have noted : ∀ fault,
      Trace.records (Channel.noted fault) =
        Host.flushNote "vm_diagnostics::output" fault := by
    intro fault
    cases fault <;> rfl
  have records :
      Trace.records (host.setOutput scope target).2 =
        Host.flushNote "vm_diagnostics::output"
          (host.flushOutput scope).2.2 := by
    rw [Host.setOutput, Trace.records_writing, Host.replaceOutput,
      Trace.records_holding, Channel.records_replace, noted]
    rfl
  rw [← records]
  exact Trace.notes_of_printing (host.isPrinting_setOutput scope target)

theorem notes_foreign_print (message : Foreign.ForeignString) :
    Trace.Notes (Foreign.print host message).2.1
      (host.noted (.print message)) := by
  have silent :=
    host.records_printReading .shared (Message.text (incoming message))
  have records :
      Trace.records (Foreign.print host message).2.1 =
        host.noted (.print message) := by
    rw [Host.noted, Foreign.print]
    split <;> rename_i answered <;> rw [answered] at silent
    · rename_i count
      have succeeded :
          ¬ ((min count Foreign.printMaximum : Nat) : Int) < 0 := by
        omega
      rw [if_neg succeeded, Trace.records_reading]
      exact silent
    · rw [Trace.records_reading, Trace.records_append, silent]
      rfl
  rw [← records]
  exact Trace.notes_of_printing (host.isPrinting_foreign_print message)

theorem notes_emit
    (scope : Scope) (category : String) (origin : Origin) (message : Message) :
    Trace.Notes (host.emit scope category origin message).2 [] :=
  (host.onlyForwards_emit scope category origin message).notes

/-- A call by severity from the foreign side either emits or leaves a record. -/
theorem notes_foreign_emission
    (index : Int) {trace : Trace}
    (emits : ∀ severity, Severity.ofIndex index = .ok severity →
      Trace.Notes trace [])
    (refuses : ∀ fault, Severity.ofIndex index = .error fault →
      trace = [.record (Record.invalidSeverity fault)]) :
    Trace.Notes trace
      (if 0 ≤ index ∧ index ≤ 5 then [] else [outsideRecord index]) := by
  by_cases inside : 0 ≤ index ∧ index ≤ 5
  · obtain ⟨severity, rfl⟩ := Severity.exists_of_index inside.1 inside.2
    rw [if_pos inside]
    exact emits severity severity.ofIndex_index
  · rw [if_neg inside, refuses _ (Severity.ofIndex_of_outside inside)]
    rfl

theorem notes_answer (build : Build) (call : ForeignCall) :
    Trace.Notes (host.answer build call).2.1 (host.noted call) := by
  cases call with
  | emit => exact notes_emit host .shared _ _ _
  | emitAssertion => exact notes_emit host .shared _ _ _
  | emitBySeverity index file function line message =>
      apply notes_foreign_emission index
      · intro severity inside
        rw [Host.answer, Foreign.emitBySeverity, inside]
        exact notes_emit host .shared _ _ _
      · intro fault outside
        rw [Host.answer, Foreign.emitBySeverity, outside]
  | emitSystemFault index message file function line code =>
      apply notes_foreign_emission index
      · intro severity inside
        rw [Host.answer, Foreign.emitSystemFault, inside]
        exact notes_emit host .shared _ _ _
      · intro fault outside
        rw [Host.answer, Foreign.emitSystemFault, outside]
  | setStream stream =>
      cases stream with
      | none => exact notes_setOutput host .shared none
      | some opened =>
          exact
            notes_setOutput (host.opening (some opened)) .shared
              (some (.file opened.1))
  | print message => exact notes_foreign_print host message
  | fatal message file line =>
      exact
        host.notes_fatal .shared (Foreign.fatalOrigin file line)
          (incoming message)
  | _ => rfl

end Host

/-- The records of a step are those of the signals that it forwards, and at most
one other. -/
theorem notes_perform (session : Session) (step : Step) :
    Trace.Notes (session.perform step).2.1 (session.noted step) := by
  have bySeverity :
      ∀ (level : Int) (call : Severity → Host × Trace),
        (∀ severity, Trace.Notes (call severity).2 []) →
          Trace.Notes (session.bySeverity level call).2.1 [] := by
    intro level call emits
    rw [Session.bySeverity]
    cases Severity.ofIndex level with
    | error fault => rfl
    | ok severity => exact emits severity
  cases step with
  | setSink | setFilter | setStatusPrinter =>
      apply Trace.OnlyForwards.notes
      obtain ⟨host, scope, maximum, build⟩ := session
      cases scope <;> rfl
  | setOutput target =>
      exact notes_setOutput session.host session.scope target
  | wants category =>
      apply Trace.OnlyForwards.notes
      have asks := (session.host.asking_gate session.scope category).2
      have forwards :
          Trace.OnlyForwards
            (session.host.wants session.scope category).2 := by
        rw [Trace.OnlyForwards, Trace.records_of_asking asks,
          Trace.journaled_of_undelivered (Trace.deliveries_of_asking asks)]
      exact forwards.reading session.scope
  | emit => exact notes_emit session.host session.scope _ _ _
  | emitAssertion => exact notes_emit session.host session.scope _ _ _
  | emitBySeverity =>
      apply bySeverity
      intro severity
      exact notes_emit session.host session.scope _ _ _
  | emitSystemFault =>
      apply bySeverity
      intro severity
      exact notes_emit session.host session.scope _ _ _
  | print message =>
      apply Trace.OnlyForwards.notes
      exact
        (session.host.onlyForwards_printReading session.scope message).reading
          session.scope
  | flush =>
      apply Trace.OnlyForwards.notes
      exact
        (session.host.onlyForwards_flushOutput session.scope).reading
          session.scope
  | poll =>
      apply Trace.OnlyForwards.notes
      exact
        (session.host.onlyForwards_pollBuffer session.scope).reading
          session.scope
  | fatal origin message =>
      have fatal :=
        session.host.notes_fatal session.scope origin
          message.program.collect.buffer
      by_cases succeeds : message.program.collect.succeeded = true
      · simp only [perform, Host.fatalMessage, if_pos succeeds, noted]
        exact fatal
      · simp only [perform, Host.fatalMessage, if_neg succeeds, noted]
        rfl
  | foreign call => exact notes_answer session.host session.build call
  | _ => rfl

/-! ## Runs with and without a maximum -/

end Session

/-- Whether an event is anything but a record. -/
def Event.isUnrecorded : Event → Bool
  | .record _ => false
  | _ => true

/-- What is seen of a step apart from records. -/
def Answer.unrecorded (answer : Answer) : Answer :=
  { answer with trace := answer.trace.filter Event.isUnrecorded }

theorem Trace.unrecorded_upTo (maximum : Verbosity) (trace : Trace) :
    (trace.upTo maximum).filter Event.isUnrecorded =
      trace.filter Event.isUnrecorded := by
  rw [Trace.upTo, List.filter_filter]
  congr 1
  funext event
  cases event <;> rfl

namespace Session

/-- The steps that set no maximum. -/
def unbounded (steps : List Step) : List Step :=
  steps.filter fun step => step.maximum?.isNone

/-- What belongs to the steps that set no maximum. -/
def beside {Item : Type} (steps : List Step) (items : List Item) :
    List Item :=
  ((steps.zip items).filter fun entry => entry.1.maximum?.isNone).map Prod.snd

/-- The maximum in force at each step. -/
def bounds (maximum : Verbosity) : List Step → List Verbosity
  | [] => []
  | step :: rest =>
      let current := step.maximum?.getD maximum
      current :: bounds current rest

/-- The records that there would be at each step of a run, whatever is seen of
them. -/
def wouldBe (session : Session) : List Step → List (List Record)
  | [] => []
  | step :: rest =>
      ((session.answer step).trace.journaled ++ session.noted step) ::
        match session.next step with
        | some after => after.wouldBe rest
        | none => []

/-- The session without a maximum of its own. -/
def boundless (session : Session) : Session :=
  { session with maximum := .off }

section Boundless

variable {left right : Session} {step : Step}

theorem perform_boundless
    (unset : step.maximum? = none) (session : Session) :
    session.boundless.perform step =
      ((session.perform step).1.boundless, (session.perform step).2) := by
  cases step with
  | setMaximum => cases unset
  | emitBySeverity level =>
      simp only [perform, bySeverity]
      cases Severity.ofIndex level <;> rfl
  | emitSystemFault level =>
      simp only [perform, bySeverity]
      cases Severity.ofIndex level <;> rfl
  | _ => rfl

theorem maximum_perform (session : Session) (step : Step) :
    (session.perform step).1.maximum =
      step.maximum?.getD session.maximum := by
  cases step with
  | emitBySeverity level =>
      simp only [perform, bySeverity]
      cases Severity.ofIndex level <;> rfl
  | emitSystemFault level =>
      simp only [perform, bySeverity]
      cases Severity.ofIndex level <;> rfl
  | _ => rfl

theorem maximum_next
    {session after : Session} (continues : session.next step = some after) :
    after.maximum = step.maximum?.getD session.maximum := by
  rw [next] at continues
  rw [← maximum_perform]
  cases reply : (session.perform step).2.2 with
  | aborted =>
      rw [reply] at continues
      cases continues
  | _ =>
      rw [reply] at continues
      cases continues
      rfl

theorem noted_boundless (session : Session) (step : Step) :
    session.boundless.noted step = session.noted step := by
  cases step <;> rfl

theorem unrecorded_answerOf
    (session : Session) (trace : Trace) (reply : Reply) :
    (session.answerOf trace reply).unrecorded =
      (session.boundless.answerOf trace reply).unrecorded := by
  cases reply with
  | aborted =>
      simp only [answerOf, Answer.unrecorded, Trace.unrecorded_upTo]
      rfl
  | _ => simp only [answerOf, Answer.unrecorded, Trace.unrecorded_upTo]

theorem unrecorded_answer
    (same : left.boundless = right.boundless) (unset : step.maximum? = none) :
    (left.answer step).unrecorded = (right.answer step).unrecorded := by
  have performed := perform_boundless unset left
  rw [same, perform_boundless unset right] at performed
  obtain ⟨states, rest⟩ := Prod.mk.inj performed
  rw [answer, answer, unrecorded_answerOf, ← states, ← rest,
    ← unrecorded_answerOf]

/-- Sessions that differ in the maximum end with the same step, or go on and
differ in nothing else. -/
theorem next_alike
    (same : left.boundless = right.boundless) (unset : step.maximum? = none) :
    (left.next step = none ∧ right.next step = none) ∨
      ∃ after afterToo,
        left.next step = some after ∧ right.next step = some afterToo ∧
          after.boundless = afterToo.boundless ∧ after.settle = after := by
  have performed := perform_boundless unset left
  rw [same, perform_boundless unset right] at performed
  obtain ⟨states, rest⟩ := Prod.mk.inj performed
  have settled :
      (left.perform step).1.settle.boundless =
        (right.perform step).1.settle.boundless :=
    congrArg settle states.symm
  rw [next, next, ← rest]
  cases reply : (right.perform step).2.2 with
  | aborted => exact Or.inl ⟨rfl, rfl⟩
  | _ => exact Or.inr ⟨_, _, rfl, rfl, settled, rfl⟩

theorem wouldBe_cons (session : Session) (step : Step) (rest : List Step) :
    session.wouldBe (step :: rest) =
      ((session.answer step).trace.journaled ++ session.noted step) ::
        match session.next step with
        | some after => after.wouldBe rest
        | none => [] := rfl

theorem wouldBe_alike
    (same : left.boundless = right.boundless) (unset : step.maximum? = none) :
    (left.answer step).trace.journaled ++ left.noted step =
      (right.answer step).trace.journaled ++ right.noted step := by
  have performed := perform_boundless unset left
  rw [same, perform_boundless unset right] at performed
  obtain ⟨_, rest⟩ := Prod.mk.inj performed
  rw [trace_answer, trace_answer, Trace.journaled_upTo, Trace.journaled_upTo,
    rest, ← noted_boundless left, same, noted_boundless]

section Beside

variable {Item : Type} (rest : List Step) (item : Item) (items : List Item)

theorem beside_cons_of_unset (unset : step.maximum? = none) :
    beside (step :: rest) (item :: items) = item :: beside rest items := by
  simp [beside, unset]

theorem beside_cons_of_set
    {maximum : Verbosity} (sets : step.maximum? = some maximum) :
    beside (step :: rest) (item :: items) = beside rest items := by
  simp [beside, sets]

theorem beside_nil : beside rest ([] : List Item) = [] := by
  rw [beside, List.zip_nil_right]
  rfl

theorem unbounded_cons_of_unset (unset : step.maximum? = none) :
    unbounded (step :: rest) = step :: unbounded rest := by
  simp [unbounded, unset]

theorem unbounded_cons_of_set
    {maximum : Verbosity} (sets : step.maximum? = some maximum) :
    unbounded (step :: rest) = unbounded rest := by
  simp [unbounded, sets]

end Beside

/-- A run is that of the steps that set no maximum. -/
structure RunsAs (left right : Session) (steps : List Step) : Prop where
  answers :
    (beside steps (left.run steps)).map Answer.unrecorded =
      (right.run (unbounded steps)).map Answer.unrecorded
  records : beside steps (left.wouldBe steps) = right.wouldBe (unbounded steps)
  flattened :
    (left.wouldBe steps).flatten = (right.wouldBe (unbounded steps)).flatten

/-- Setting a maximum changes nothing else, and nothing is seen of it. -/
theorem next_setMaximum
    (settled : left.settle = left) (maximum : Verbosity) :
    left.next (.setMaximum maximum) = some { left with maximum } := by
  have unchanged : { left.settle with maximum } = { left with maximum } := by
    rw [settled]
  exact congrArg some unchanged

theorem runsAs_of_boundless
    (same : left.boundless = right.boundless) (settled : left.settle = left)
    (steps : List Step) : left.RunsAs right steps := by
  -- What carries the induction is that the two sessions differ in the maximum
  -- alone; only on the left is it ever set.
  induction steps generalizing left right with
  | nil => exact ⟨rfl, rfl, rfl⟩
  | cons step rest inductionHypothesis =>
      cases sets : step.maximum? with
      | some maximum =>
          cases step with
          | setMaximum chosen =>
              have following : RunsAs { left with maximum := chosen } right rest :=
                inductionHypothesis same
                  (congrArg
                    (fun after : Session => { after with maximum := chosen })
                    settled)
              have continues := next_setMaximum settled chosen
              constructor
              · rw [run_cons, continues, beside_cons_of_set _ _ _ sets,
                  unbounded_cons_of_set _ sets]
                exact following.answers
              · rw [wouldBe_cons, continues, beside_cons_of_set _ _ _ sets,
                  unbounded_cons_of_set _ sets]
                exact following.records
              · rw [wouldBe_cons, continues, List.flatten_cons,
                  unbounded_cons_of_set _ sets]
                exact following.flattened
          | _ => cases sets
      | none =>
          have answer := unrecorded_answer same sets
          have records := wouldBe_alike same sets
          rcases next_alike same sets with
            ⟨ends, endsToo⟩ | ⟨after, afterToo, continues, continuesToo, alike,
              settledThen⟩
          · constructor
            · rw [unbounded_cons_of_unset _ sets, run_cons, run_cons, ends,
                endsToo, beside_cons_of_unset _ _ _ sets, beside_nil,
                List.map_cons, List.map_cons, answer]
            · rw [unbounded_cons_of_unset _ sets, wouldBe_cons, wouldBe_cons,
                ends, endsToo, beside_cons_of_unset _ _ _ sets, beside_nil,
                records]
            · rw [unbounded_cons_of_unset _ sets, wouldBe_cons, wouldBe_cons,
                ends, endsToo, records]
          · have following := inductionHypothesis alike settledThen
            constructor
            · rw [unbounded_cons_of_unset _ sets, run_cons, run_cons, continues,
                continuesToo, beside_cons_of_unset _ _ _ sets, List.map_cons,
                List.map_cons, answer]
              exact congrArg (_ :: ·) following.answers
            · rw [unbounded_cons_of_unset _ sets, wouldBe_cons, wouldBe_cons,
                continues, continuesToo, beside_cons_of_unset _ _ _ sets,
                records]
              exact congrArg (_ :: ·) following.records
            · rw [unbounded_cons_of_unset _ sets, wouldBe_cons, wouldBe_cons,
                continues, continuesToo, List.flatten_cons, List.flatten_cons,
                records]
              exact congrArg (_ ++ ·) following.flattened

end Boundless

/-! ## What is seen of the records -/

/-- Of the records that there would be at a step those are seen that the maximum
admits. -/
theorem records_answer (session : Session) (step : Step) :
    (session.answer step).trace.records =
      ((session.answer step).trace.journaled ++ session.noted step).filter
        fun record =>
          (step.maximum?.getD session.maximum).admits record.level := by
  have notes := notes_perform session step
  rw [Trace.Notes] at notes
  rw [trace_answer, Trace.journaled_upTo, Trace.records_upTo, notes,
    maximum_perform]

theorem records_run (session : Session) (steps : List Step) :
    (session.run steps).map (fun answer => answer.trace.records) =
      List.zipWith
        (fun maximum records =>
          records.filter fun record => maximum.admits record.level)
        (bounds session.maximum steps) (session.wouldBe steps) := by
  induction steps generalizing session with
  | nil => rfl
  | cons step rest inductionHypothesis =>
      rw [run_cons, wouldBe_cons, bounds, List.map_cons, records_answer,
        List.zipWith_cons_cons]
      congr 1
      cases continues : session.next step with
      | none => exact (List.zipWith_nil_right ..).symm
      | some after =>
          simp only [inductionHypothesis, maximum_next continues]

/-- However maxima are set: every step is answered alike apart from records, and
of what sets a maximum nothing is seen.  The records that there would be are the
same, and seen are those among them that the maximum in force admits.  They are
one for each signal that is delivered to a journal, with the level of its
category, and the few that a step notes itself. -/
theorem maximum_only_filters_records
    (session : Session) (maximum : Verbosity) (first second : List Step)
    (settled : session.settle = session)
    (same : unbounded first = unbounded second) :
    ((beside first (session.run first)).map Answer.unrecorded =
        (beside second ({ session with maximum }.run second)).map
          Answer.unrecorded ∧
      ∀ chosen,
        session.answer (.setMaximum chosen) = ⟨.nothing, [], [], []⟩) ∧
      (beside first (session.wouldBe first) =
          beside second ({ session with maximum }.wouldBe second) ∧
        (session.wouldBe first).flatten =
          ({ session with maximum }.wouldBe second).flatten) ∧
      (∀ steps,
        (session.run steps).map (fun answer => answer.trace.records) =
          List.zipWith
            (fun maximum records =>
              records.filter fun record => maximum.admits record.level)
            (bounds session.maximum steps) (session.wouldBe steps)) ∧
      (∀ severity level, Severity.level? severity = some level →
        Record.levelOf severity.name = level) ∧
      ∀ category,
        (∀ severity : Severity, severity.level?.isSome →
          severity.name ≠ category) →
          Record.levelOf category = .info := by
  have firstRuns : session.RunsAs session first :=
    runsAs_of_boundless rfl settled first
  have settledToo : settle { session with maximum } = { session with maximum } :=
    congrArg (fun after : Session => { after with maximum }) settled
  have sameToo : boundless { session with maximum } = session.boundless := rfl
  have secondRuns : RunsAs { session with maximum } session second :=
    runsAs_of_boundless sameToo settledToo second
  refine
    ⟨⟨?_, fun _ => rfl⟩, ⟨?_, ?_⟩, session.records_run,
      fun _ _ => Record.levelOf_name, fun _ => Record.levelOf_of_unnamed⟩
  · rw [firstRuns.answers, same, ← secondRuns.answers]
  · rw [firstRuns.records, same, ← secondRuns.records]
  · rw [firstRuns.flattened, same, ← secondRuns.flattened]

/-- An assertion and a message of a category without a severity reach a journal,
under a maximum that admits only the first, and under one that is set between
them. -/
theorem maximum_only_filters_records_between :
    ((fresh .shared false "" (Build.current "" "")).wouldBe
          [.setMaximum (.upTo .warn), .setSink (some .journal) none,
            .setFilter (some .all) none,
            .emitAssertion ⟨"gc.c", "fullGC", 7⟩ "hot",
            .emit "GC" ⟨"gc.c", "scavenge", 3⟩ (Message.text "cold")]).flatten =
        ((fresh .shared false "" (Build.current "" "")).wouldBe
          [.setSink (some .journal) none, .setFilter (some .all) none,
            .emitAssertion ⟨"gc.c", "fullGC", 7⟩ "hot",
            .setMaximum (.upTo .info),
            .emit "GC" ⟨"gc.c", "scavenge", 3⟩ (Message.text "cold")]).flatten ∧
      ((fresh .shared false "" (Build.current "" "")).run
            [.setMaximum (.upTo .warn), .setSink (some .journal) none,
              .setFilter (some .all) none,
              .emitAssertion ⟨"gc.c", "fullGC", 7⟩ "hot",
              .emit "GC" ⟨"gc.c", "scavenge", 3⟩ (Message.text "cold")]).map
          (fun answer => answer.trace.records) =
        [[], [], [],
          [⟨.warn, "vm", "[WARNING] hot", some ⟨"gc.c", "fullGC", 7⟩⟩], []] := by
  obtain ⟨_, ⟨_, flattened⟩, seen, _⟩ :=
    maximum_only_filters_records (fresh .shared false "" (Build.current "" ""))
      .off
      [.setMaximum (.upTo .warn), .setSink (some .journal) none,
        .setFilter (some .all) none,
        .emitAssertion ⟨"gc.c", "fullGC", 7⟩ "hot",
        .emit "GC" ⟨"gc.c", "scavenge", 3⟩ (Message.text "cold")]
      [.setSink (some .journal) none, .setFilter (some .all) none,
        .emitAssertion ⟨"gc.c", "fullGC", 7⟩ "hot",
        .setMaximum (.upTo .info),
        .emit "GC" ⟨"gc.c", "scavenge", 3⟩ (Message.text "cold")]
      rfl rfl
  refine ⟨flattened, ?_⟩
  rw [seen]
  decide

end Session

end SignalHub
