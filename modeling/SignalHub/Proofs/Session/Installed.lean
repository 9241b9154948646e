import SignalHub.Proofs.Installed
import SignalHub.Proofs.Session.ForeignPrinting

/-!
# Sessions with and without a target

A session without a target goes on as one where standard output was installed by an
earlier print.  Only who asks whether a target is installed can tell them apart.
-/

namespace SignalHub

open Output Text

namespace Reply

def ofState : Option BufferState → Reply
  | some state => .buffer state
  | none => .nothing

end Reply

namespace Step

/-- Whether a step asks for what tells if a target is installed. -/
def tells : Step → Bool
  | .isConfigured | .describe | .describeOutput => true
  | _ => false

/-- The reply of a step, without what tells if a target is installed. -/
def discreet (step : Step) (reply : Reply) : Reply :=
  if step.tells then .nothing else reply

theorem discreet_of_tells
    {step : Step} (tells : step.tells = true) (first second : Reply) :
    step.discreet first = step.discreet second := by
  rw [discreet, discreet, if_pos tells, if_pos tells]

end Step

namespace Host

/-! ## Calls of the host -/

section Calls

variable (scope within : Scope) (host : Host)

theorem fatalMessage_installed (origin : Origin) (message : Message) :
    (host.installed scope).fatalMessage within origin message =
      installing scope (host.fatalMessage within origin message) := by
  simp only [fatalMessage, fatal_installed]
  split <;> rfl

theorem foreign_print_installed (message : Option Bytes) :
    Foreign.print (host.installed scope) message =
      installing scope (Foreign.print host message) := by
  rw [Foreign.print_eq, Foreign.print_eq, printBytes_installed]
  rfl

theorem foreign_setStream_installed
    (stream : Option (String × HostFile)) :
    installing scope (Foreign.setStream (host.installed scope) stream) =
      installing scope (Foreign.setStream host stream) := by
  have opened :
      (host.installed scope).opening stream =
        (host.opening stream).installed scope := by
    cases stream <;> cases scope <;> rfl
  have same : ∀ host : Host,
      Foreign.setStream host stream =
        (host.opening stream).setOutput .shared
          (stream.map fun opened => .file opened.1) := by
    intro host
    cases stream <;> rfl
  rw [same, same, opened, setOutput_installed]

theorem answer_installed
    {call : ForeignCall} (quiet : (Step.foreign call).isEmission = false)
    (build : Build) :
    installing scope ((host.installed scope).answer build call) =
      installing scope (host.answer build call) := by
  cases call with
  | setSink present script => cases scope <;> rfl
  | setFilter present acceptance => cases scope <;> rfl
  | setStatusPrinter present actions => cases scope <;> rfl
  | emit | emitBySeverity | emitAssertion | emitSystemFault => cases quiet
  | setStream stream =>
      have set := host.foreign_setStream_installed scope stream
      simp only [installing, Prod.mk.injEq] at set
      simp only [answer, installing, set]
  | print message =>
      simp only [answer, foreign_print_installed, installing,
        installed_installed]
  | fileContent name =>
      obtain ⟨ports, _⟩ := host.frame_installed scope
      simp only [answer, ports, installing, installed_installed]
  | fatal message file line =>
      simp only [answer, Foreign.fatal, fatal_installed, installing,
        installed_installed]
  | _ => simp only [answer, installing, installed_installed]

end Calls

end Host

namespace Session

/-! ## One step -/

/-- The session once the current target of a hub is installed. -/
def installed (scope : Scope) (session : Session) : Session :=
  { session with host := session.host.installed scope }

/-- Two sessions that differ at most in whether a hub's target is installed. -/
def Alike (scope : Scope) (left right : Session) : Prop :=
  left.installed scope = right.installed scope

/-- What a step leaves in two sessions that are alike, the reply apart if it
tells. -/
structure AlikeAfter
    (scope : Scope) (step : Step) (left right : Session × Trace × Reply) :
    Prop where
  alike : Alike scope left.1 right.1
  trace : left.2.1 = right.2.1
  reply : step.discreet left.2.2 = step.discreet right.2.2

section Perform

variable {scope : Scope} {step : Step}

theorem AlikeAfter.trans
    {left middle right : Session × Trace × Reply}
    (first : AlikeAfter scope step left middle)
    (second : AlikeAfter scope step middle right) :
    AlikeAfter scope step left right := by
  constructor
  · exact first.alike.trans second.alike
  · exact first.trace.trans second.trace
  · exact first.reply.trans second.reply

theorem AlikeAfter.symm
    {left right : Session × Trace × Reply}
    (alike : AlikeAfter scope step left right) :
    AlikeAfter scope step right left := by
  constructor
  · exact Eq.symm alike.alike
  · exact alike.trace.symm
  · exact alike.reply.symm

/-- A step that makes a call, where the call leaves the same once the target is
installed. -/
theorem alikeAfter_of_call
    {Item : Type} {left right : Host × Item}
    (same : Host.installing scope left = Host.installing scope right)
    (session : Session) (trace : Item → Trace) (reply : Item → Reply) :
    AlikeAfter scope step
      ({ session.installed scope with host := left.1 }, trace left.2,
        reply left.2)
      ({ session with host := right.1 }, trace right.2, reply right.2) := by
  simp only [Host.installing, Prod.mk.injEq] at same
  obtain ⟨host, item⟩ := same
  constructor
  · exact congrArg (fun host => { session with host }) host
  · exact congrArg trace item
  · exact congrArg (fun item => step.discreet (reply item)) item

theorem alikeAfter_of_exact
    {Item : Type} {left right : Host × Item}
    (same : left = Host.installing scope right)
    (session : Session) (trace : Item → Trace) (reply : Item → Reply) :
    AlikeAfter scope step
      ({ session.installed scope with host := left.1 }, trace left.2,
        reply left.2)
      ({ session with host := right.1 }, trace right.2, reply right.2) := by
  have twice := Host.installing_installing scope right
  rw [← same] at twice
  exact alikeAfter_of_call (twice.trans same) session trace reply

theorem alike_installed (scope : Scope) (session : Session) :
    Alike scope (session.installed scope) session :=
  congrArg (fun host : Host => ({ session with host } : Session))
    (Host.installed_installed scope session.host)

/-- A step that leaves the session as it is. -/
theorem alikeAfter_of_still
    {Item : Type} {left right : Item} (same : left = right)
    (session : Session) (trace : Item → Trace) (reply : Item → Reply) :
    AlikeAfter scope step
      (session.installed scope, trace left, reply left)
      (session, trace right, reply right) := by
  rw [same]
  exact ⟨alike_installed scope session, rfl, rfl⟩

theorem perform_installed_of_emission
    (asks : step.isEmission = true) (session : Session) :
    AlikeAfter scope step ((session.installed scope).perform step)
      (session.perform step) := by
  rcases step.emits_or_refuses asks session.scope with
    ⟨on, emission, emits⟩ | ⟨trace, reply, refuses⟩
  · have emitsThere :
        step.emissionOn? (session.installed scope).scope =
          some (on, emission) := emits
    have emitted :
        (session.installed scope).host.emitted on emission =
          Host.installing scope (session.host.emitted on emission) :=
      session.host.emit_installed on _ _ _
    rw [perform_of_emissionOn emits, perform_of_emissionOn emitsThere]
    exact alikeAfter_of_exact emitted session id fun _ => .nothing
  · rw [perform_of_refusal refuses, perform_of_refusal refuses]
    exact ⟨alike_installed scope session, rfl, rfl⟩

theorem perform_installed
    (scope : Scope) (session : Session) (step : Step) :
    AlikeAfter scope step ((session.installed scope).perform step)
      (session.perform step) := by
  by_cases asks : step.isEmission = true
  · exact perform_installed_of_emission asks session
  obtain ⟨sink, filter, _⟩ :
      (session.installed scope).hub.sink = session.hub.sink ∧
        (session.installed scope).hub.filter = session.hub.filter ∧ _ :=
    session.host.hub_installed scope session.scope
  cases step with
  | emit | emitBySeverity | emitAssertion | emitSystemFault =>
      exact absurd rfl asks
  | setSink sink script =>
      refine ⟨?_, rfl, rfl⟩
      obtain ⟨host, within, maximum, build⟩ := session
      cases scope <;> cases within <;> rfl
  | setFilter filter acceptance =>
      refine ⟨?_, rfl, rfl⟩
      obtain ⟨host, within, maximum, build⟩ := session
      cases scope <;> cases within <;> rfl
  | setStatusPrinter actions =>
      refine ⟨?_, rfl, rfl⟩
      obtain ⟨host, within, maximum, build⟩ := session
      cases scope <;> cases within <;> rfl
  | setMaximum maximum =>
      refine ⟨?_, rfl, rfl⟩
      obtain ⟨host, within, _, build⟩ := session
      cases scope <;> rfl
  | setOutput target =>
      exact
        alikeAfter_of_call
          (session.host.setOutput_installed scope session.scope target)
          session id fun _ => .nothing
  | wants category =>
      exact
        alikeAfter_of_still
          (session.host.wants_installed scope session.scope category) session
          (fun asked => Trace.reading session.scope asked.2)
          fun asked => .truth asked.1
  | hasSink =>
      exact
        alikeAfter_of_still sink session (fun _ => [])
          fun sink => .truth sink.isSome
  | hasFilter =>
      exact
        alikeAfter_of_still filter session (fun _ => [])
          fun filter => .truth filter.isSome
  | sinkIs kind =>
      exact
        alikeAfter_of_still sink session (fun _ => [])
          fun sink => .truth (sink.bind Sink.kind? == some kind)
  | bufferState =>
      have state :
          (session.installed scope).hub.bufferState? =
            session.hub.bufferState? := by
        rw [Hub.bufferState?, Hub.bufferState?, sink]
      exact
        alikeAfter_of_still state session (fun _ => []) Reply.ofState
  | print message =>
      exact
        alikeAfter_of_exact
          (session.host.printMessage_installed scope session.scope message)
          session Prod.fst fun result => .ofCount result.2
  | flush =>
      exact
        alikeAfter_of_exact
          (session.host.flushOutput_installed scope session.scope) session
          (fun result => Trace.reading session.scope result.1)
          fun result => .ofFault result.2
  | poll =>
      exact
        alikeAfter_of_exact
          (session.host.pollBuffer_installed scope session.scope) session
          (fun result => Trace.reading session.scope result.1)
          fun result => .ofPolled result.2
  | fatal origin message =>
      exact
        alikeAfter_of_exact
          (session.host.fatalMessage_installed scope session.scope origin
            message)
          session Prod.fst Prod.snd
  | foreign call =>
      exact
        alikeAfter_of_call
          (session.host.answer_installed scope (Bool.eq_false_iff.mpr asks)
            session.build)
          session Prod.fst Prod.snd
  | isConfigured | describe | describeOutput =>
      exact
        ⟨alike_installed scope session, rfl, Step.discreet_of_tells rfl _ _⟩

end Perform

/-! ## Runs -/

end Session

/-- An answer to a step, without what tells if a target is installed. -/
def Step.veiled (step : Step) (answer : Answer) : Answer :=
  { answer with reply := step.discreet answer.reply }

namespace Session

section Run

variable {scope : Scope} {left right : Session}

theorem Alike.perform (alike : Alike scope left right) (step : Step) :
    AlikeAfter scope step (left.perform step) (right.perform step) := by
  have before := perform_installed scope left step
  have after := perform_installed scope right step
  have same : left.installed scope = right.installed scope := alike
  rw [same] at before
  exact before.symm.trans after

theorem Alike.settle (alike : Alike scope left right) :
    Alike scope left.settle right.settle := by
  have commutes : ∀ session : Session,
      session.settle.installed scope = (session.installed scope).settle := by
    intro session
    cases scope <;> rfl
  have same : left.installed scope = right.installed scope := alike
  rw [Alike, commutes, commutes, same]

theorem Alike.frame (alike : Alike scope left right) :
    left.maximum = right.maximum ∧ left.host.ports = right.host.ports := by
  have same : left.installed scope = right.installed scope := alike
  have maximum := congrArg Session.maximum same
  have ports := congrArg (fun session => session.host.ports) same
  obtain ⟨before, _⟩ := left.host.frame_installed scope
  obtain ⟨after, _⟩ := right.host.frame_installed scope
  exact ⟨maximum, before.symm.trans (ports.trans after)⟩

/-- Nothing ends with a step that tells. -/
theorem Alike.aborts (alike : Alike scope left right) (step : Step) :
    (left.perform step).2.2 = .aborted ↔
      (right.perform step).2.2 = .aborted := by
  have reply := (alike.perform step).reply
  cases tells : step.tells with
  | false =>
      rw [Step.discreet, Step.discreet, tells] at reply
      exact iff_of_eq (congrArg (· = Reply.aborted) reply)
  | true =>
      cases step with
      | isConfigured | describe | describeOutput =>
          exact iff_of_false Reply.noConfusion Reply.noConfusion
      | _ => cases tells

theorem Alike.answer (alike : Alike scope left right) (step : Step) :
    step.veiled (left.answer step) = step.veiled (right.answer step) := by
  obtain ⟨alikeThen, trace, reply⟩ := alike.perform step
  obtain ⟨maximum, ports⟩ := alikeThen.frame
  rw [Session.answer, Session.answer, trace]
  by_cases ends : (left.perform step).2.2 = .aborted
  · have endsThere := (alike.aborts step).mp ends
    rw [ends, endsThere, answerOf, answerOf, maximum, ports]
  · have goesOnThere : (right.perform step).2.2 ≠ .aborted :=
      fun endsThere => ends ((alike.aborts step).mpr endsThere)
    rw [answerOf_of_goesOn ends, answerOf_of_goesOn goesOnThere, maximum,
      Step.veiled, Step.veiled]
    simp only [reply]

theorem Alike.next (alike : Alike scope left right) (step : Step) :
    (left.next step = none ∧ right.next step = none) ∨
      ∃ leftAfter rightAfter,
        left.next step = some leftAfter ∧
          right.next step = some rightAfter ∧
          Alike scope leftAfter rightAfter := by
  have performed := alike.perform step
  by_cases ends : (left.perform step).2.2 = .aborted
  · have endsThere := (alike.aborts step).mp ends
    refine Or.inl ⟨?_, ?_⟩
    · rw [Session.next, ends]
    · rw [Session.next, endsThere]
  · have goesOnThere : (right.perform step).2.2 ≠ .aborted :=
      fun endsThere => ends ((alike.aborts step).mpr endsThere)
    have continues := next_of_reply (Eq.refl (left.perform step)) ends
    have continuesThere :=
      next_of_reply (Eq.refl (right.perform step)) goesOnThere
    exact
      Or.inr ⟨_, _, continues, continuesThere, performed.alike.settle⟩

/-- The induction is on the steps; each leaves the two sessions alike. -/
theorem Alike.run (alike : Alike scope left right) (steps : List Step) :
    List.zipWith Step.veiled steps (left.run steps) =
      List.zipWith Step.veiled steps (right.run steps) := by
  induction steps generalizing left right with
  | nil => rfl
  | cons step rest inductionHypothesis =>
      have answered := alike.answer step
      rcases alike.next step with
        ⟨ends, endsThere⟩ |
          ⟨after, other, continues, continuesThere, alikeThen⟩
      · rw [run_cons, run_cons, ends, endsThere]
        exact congrArg (· :: List.zipWith Step.veiled rest []) answered
      · rw [run_cons_of_next continues, run_cons_of_next continuesThere,
          List.zipWith_cons_cons, List.zipWith_cons_cons, answered,
          inductionHypothesis alikeThen]

end Run

/-- The session with another target of a hub. -/
def targeting (session : Session) (scope : Scope) (target : Option Target) :
    Session :=
  { session with host := session.host.setChannel scope ⟨target⟩ }

/-- No target is like standard output that is installed. -/
theorem alike_unset (session : Session) (scope : Scope) :
    Alike scope (session.targeting scope none)
      (session.targeting scope (some .screen)) := by
  cases scope <;> rfl

end Session

end SignalHub
