import SignalHub.Proofs.Fallback
import SignalHub.Proofs.Session.Fatal
import SignalHub.Proofs.Session.ForeignPrinting

/-!
# Standard output over whole sessions

While the host has installed no target, standard output takes what is printed on
the hub of the session, between the lines of the console; otherwise the target of
the host does, and gets nothing else.
-/

namespace SignalHub

open Output Text

namespace Step

/-- The target that a step makes the current one, or that it goes back to none. -/
def newTarget? : Step → Option (Option Target)
  | .setOutput target => some target
  | .foreign (.setStream stream) =>
      some (stream.map fun opened => .file opened.1)
  | _ => none

/-- The step works on the hub of the session, and not on the one that the foreign
side shares. -/
def isNative : Step → Bool
  | .foreign _ => false
  | _ => true

/-- Whether prints are on standard output after a step: the host may make a stream
or a file its target, or anything else, or leave it as it is. -/
def aloud (step : Step) (before : Bool) : Bool :=
  match step.newTarget? with
  | some (some (.stream _)) | some (some (.file _)) => false
  | some _ => true
  | none => before

end Step

/-- The text that a step itself prints on a hub, and whether that succeeded. -/
def ownPrints (within scope : Scope) (step : Step) (reply : Reply) :
    List (Bytes × Bool) :=
  match step.text? within with
  | some (other, text) => if other = scope then [(text, reply.counts)] else []
  | none => []

theorem printsOf_eq
    (within scope : Scope) (step : Step) (trace : Trace) (reply : Reply) :
    printsOf within scope step trace reply =
      trace.printsOn scope ++ ownPrints within scope step reply := rfl

namespace Foreign

section Note

variable (result : Except Fault Nat)

theorem counts_countOf :
    (Reply.number (countOf result)).counts = result.isOk := by
  cases result with
  | ok count =>
      exact decide_eq_true (Int.natCast_nonneg (min count printMaximum))
  | error fault => rfl

theorem spoken_noteOf (paint : Bool) (clock : String) (aloud : Bool) :
    Trace.spoken paint clock aloud (noteOf result) = [] := by
  cases result <;> rfl

theorem prints_noteOf : Trace.prints (noteOf result) = [] := by
  cases result <;> rfl

end Note

end Foreign

namespace Session

/-! ## One step -/

section Perform

variable {scope : Scope} {host after : Host} {trace : Trace}

/-- A registration of anything but the output. -/
theorem speaks_registered
    (frame :
      after.paint = host.paint ∧ after.clock = host.clock ∧
        (after.hub scope).channel = (host.hub scope).channel ∧
        after.ports = host.ports) :
    Host.Speaks scope host after (Trace.writing scope []) [] := by
  obtain ⟨paint, clock, channel, ports⟩ := frame
  have still : Host.Speaks scope host after [] [] :=
    Host.Speaks.of_still paint clock channel (congrArg Ports.files ports)
      (fun empty => ports ▸ empty) rfl rfl
  exact
    still.of_same (Trace.shown_writing [] scope)
      (fun paint clock aloud => Trace.spoken_writing paint clock aloud scope [])
      (Trace.prints_writing scope [])

theorem speaks_nothing (scope : Scope) (host : Host) :
    Host.Speaks scope host host [] [] :=
  (Host.respected_speaks scope).asked rfl

/-- An emission is on the hub of the session or on the one that all share. -/
theorem speaks_of_emission
    (session : Session) {step : Step} (asks : step.isEmission = true) :
    Host.Speaks session.scope session.host (session.perform step).1.host
      (session.perform step).2.1 [] := by
  rcases step.emits_or_refuses asks session.scope with
    ⟨on, emission, emits⟩ | ⟨trace, reply, refuses⟩
  · rw [perform_of_emissionOn emits]
    exact
      (Host.respected_speaks session.scope).emit
        (Step.scope_of_emissionOn emits) session.host emission.category
        emission.origin emission.message
  · rw [perform_of_refusal refuses]
    rw [Step.refusal?] at refuses
    split at refuses
    · split at refuses <;> cases refuses <;>
        exact Host.Speaks.of_still rfl rfl rfl rfl id rfl rfl
    · cases refuses

theorem speaks_print
    (session : Session) (message : Message) :
    Host.Speaks session.scope session.host
      (session.perform (.print message)).1.host
      (session.perform (.print message)).2.1
      (ownPrints session.scope session.scope (.print message)
        (session.perform (.print message)).2.2) := by
  rw [ownPrints, Step.text?]
  by_cases succeeds : message.program.collect.succeeded = true
  · have printed :=
      session.host.speaks_printBytes session.scope (Step.printed message)
    simp only [if_pos succeeds, if_true, perform,
      printMessage_of_succeeding succeeds, counts_ofCount, isOk_mapError]
    apply printed.of_same
    · rw [Trace.shown_reading, Trace.shown_formatted]
    · intro paint clock aloud
      rw [Trace.spoken_reading]
      rfl
    · rw [Trace.prints_reading]
      rfl
  · have refused :=
      printMessage_of_failing (Bool.eq_false_iff.mpr succeeds) session.host
        session.scope
    simp only [if_neg succeeds, perform, refused]
    have asked :
        Host.Speaks session.scope session.host session.host
          [.formatted message.program.collect.taken message.announced] [] :=
      (Host.respected_speaks session.scope).asked rfl
    exact asked.reading session.scope

theorem speaks_foreign_print (host : Host) (message : Option Bytes) :
    Host.Speaks .shared host (Foreign.print host message).1
      (Foreign.print host message).2.1
      (ownPrints .shared .shared (.foreign (.print message))
        (.number (Foreign.print host message).2.2)) := by
  have printed := host.speaks_printBytes .shared (bytes (incoming message))
  rw [Foreign.print_eq, ownPrints, Step.text?]
  simp only [if_true, Foreign.counts_countOf]
  apply printed.of_same
  · rw [Trace.shown_reading, List.cons_append, Trace.shown_formatted,
      Trace.shown_append, Foreign.shown_noteOf, List.append_nil]
  · intro paint clock aloud
    rw [Trace.spoken_reading, Trace.spoken_append, Foreign.spoken_noteOf,
      List.append_nil]
    rfl
  · rw [Trace.prints_reading, Trace.prints_append, Foreign.prints_noteOf,
      List.append_nil]
    rfl

theorem speaks_pollBuffer (host : Host) (scope : Scope) :
    Host.Speaks scope host (host.pollBuffer scope).1
      (host.pollBuffer scope).2.1 [] := by
  rw [Host.pollBuffer]
  cases (host.hub scope).sink with
  | none => exact speaks_nothing scope host
  | some sink =>
      cases sink with
      | buffering waker waiting =>
          obtain ⟨channel, _, ports⟩ :=
            host.setSink_frame scope scope (some (.buffering waker []))
          refine
            Host.Speaks.of_still ?_ ?_ channel (congrArg Ports.files ports)
              (fun empty => ports ▸ empty) rfl rfl
          · cases scope <;> rfl
          · cases scope <;> rfl
      | _ => exact speaks_nothing scope host

theorem speaks_fatal
    {session : Session} {step : Step} {scope : Scope} {origin : Origin}
    {text : String}
    (reports : step.fatal? session.scope = some (scope, origin, text)) :
    Host.Speaks scope session.host (session.perform step).1.host
      (session.perform step).2.1 [] := by
  have speaks := session.host.speaks_fatal scope origin text
  have formatting :
      Trace.shown step.formatting = [] ∧
        (∀ paint clock aloud,
          Trace.spoken paint clock aloud step.formatting = []) ∧
        Trace.prints step.formatting = [] := by
    cases step <;> exact ⟨rfl, fun _ _ _ => rfl, rfl⟩
  obtain ⟨shown, spoken, prints⟩ := formatting
  rw [perform_of_fatal reports]
  apply speaks.of_same
  · rw [Trace.shown_append, shown, List.nil_append]
  · intro paint clock aloud
    rw [Trace.spoken_append, spoken, List.nil_append]
  · rw [Trace.prints_append, prints, List.nil_append]

/-- A call of the foreign side that leaves the target in its place. -/
theorem speaks_foreign
    (session : Session) {call : ForeignCall} (shared : session.scope = .shared)
    (keeps : (Step.foreign call).newTarget? = none) :
    Host.Speaks session.scope session.host
      (session.perform (.foreign call)).1.host
      (session.perform (.foreign call)).2.1
      (ownPrints session.scope session.scope (.foreign call)
        (session.perform (.foreign call)).2.2) := by
  rw [shared]
  cases call with
  | setSink present script => exact speaks_registered ⟨rfl, rfl, rfl, rfl⟩
  | setFilter present acceptance =>
      exact speaks_registered ⟨rfl, rfl, rfl, rfl⟩
  | setStatusPrinter present actions =>
      exact speaks_registered ⟨rfl, rfl, rfl, rfl⟩
  | emit | emitBySeverity | emitAssertion | emitSystemFault =>
      rw [← shared]
      exact speaks_of_emission session rfl
  | setStream stream => cases keeps
  | print message => exact speaks_foreign_print session.host message
  | fatal message file line =>
      have reports :
          (Step.foreign (.fatal message file line)).fatal? session.scope =
            some
              (.shared, Foreign.fatalOrigin file line, incoming message) :=
        rfl
      exact speaks_fatal reports
  | _ => exact speaks_nothing .shared session.host

theorem speaks_perform
    (session : Session) {step : Step} (keeps : step.newTarget? = none)
    (here : session.scope = .shared ∨ step.isNative = true) :
    Host.Speaks session.scope session.host (session.perform step).1.host
      (session.perform step).2.1
      (ownPrints session.scope session.scope step
        (session.perform step).2.2) := by
  cases step with
  | setSink sink script =>
      apply speaks_registered
      obtain ⟨host, scope, maximum, build⟩ := session
      cases scope <;> exact ⟨rfl, rfl, rfl, rfl⟩
  | setFilter filter acceptance =>
      apply speaks_registered
      obtain ⟨host, scope, maximum, build⟩ := session
      cases scope <;> exact ⟨rfl, rfl, rfl, rfl⟩
  | setOutput target => cases keeps
  | setStatusPrinter actions =>
      apply speaks_registered
      obtain ⟨host, scope, maximum, build⟩ := session
      cases scope <;> exact ⟨rfl, rfl, rfl, rfl⟩
  | wants category =>
      have asks := (session.host.asking_gate session.scope category).2
      exact
        ((Host.respected_speaks session.scope).asked asks).reading
          session.scope
  | emit | emitBySeverity | emitAssertion | emitSystemFault =>
      exact speaks_of_emission session rfl
  | print message => exact speaks_print session message
  | flush =>
      exact
        (session.host.speaks_flushOutput session.scope).reading session.scope
  | poll =>
      exact (speaks_pollBuffer session.host session.scope).reading session.scope
  | fatal origin message =>
      by_cases succeeds : message.program.collect.succeeded = true
      · exact speaks_fatal (if_pos succeeds)
      · rw [perform, Host.fatalMessage]
        simp only [if_neg succeeds]
        exact (Host.respected_speaks session.scope).asked rfl
  | foreign call =>
      rcases here with shared | native
      · exact speaks_foreign session shared keeps
      · cases native
  | _ => exact speaks_nothing session.scope session.host

end Perform

/-! ## A new target -/

/-- A new target shows nothing and asks nobody. -/
structure Replaces
    (scope : Scope) (host after : Host) (trace : Trace)
    (target : Option Target) : Prop where
  paint : after.paint = host.paint
  clock : after.clock = host.clock
  channel : (after.hub scope).channel = ⟨target⟩
  shown : trace.shown = []
  quiet : trace.all Trace.isPrinting

theorem replaces_setOutput
    (host : Host) (scope : Scope) (target : Option Target) :
    Replaces scope host (host.setOutput scope target).1
      (host.setOutput scope target).2 target := by
  have flushed : Trace.shown ((host.hub scope).channel.flush host.ports).2.2.1 =
      [] := by
    have shown := host.shown_flushOutput scope
    rw [Host.flushOutput, Trace.shown_holding] at shown
    exact shown
  have noted : ∀ fault, Trace.shown (Channel.noted fault) = [] := by
    intro fault
    cases fault <;> rfl
  have dismissed : ∀ channel : Channel, Trace.shown channel.dismiss = [] := by
    intro channel
    rw [Channel.dismiss]
    split
    · exact Channel.shown_map _
    · rfl
  constructor
  · cases scope <;> rfl
  · cases scope <;> rfl
  · cases scope <;> rfl
  · rw [Host.setOutput, Host.replaceOutput, Trace.shown_writing,
      Trace.shown_holding, Channel.replace_eq, Trace.shown_append,
      Trace.shown_append, flushed, noted, dismissed]
    rfl
  · exact host.isPrinting_setOutput scope target

section Answer

variable {session after : Session} {step : Step}

theorem replaces_perform
    {target : Option Target} (replaces : step.newTarget? = some target)
    (here : session.scope = .shared ∨ step.isNative = true) :
    Replaces session.scope session.host (session.perform step).1.host
      (session.perform step).2.1 target := by
  cases step with
  | setOutput other =>
      cases replaces
      exact replaces_setOutput session.host session.scope target
  | foreign call =>
      rcases here with shared | native
      · rw [shared]
        cases call with
        | setStream stream =>
            cases replaces
            cases stream with
            | none => exact replaces_setOutput session.host .shared none
            | some opened =>
                obtain ⟨paint, clock, channel, shown, quiet⟩ :=
                  replaces_setOutput (session.host.opening (some opened))
                    .shared (some (.file opened.1))
                exact ⟨paint, clock, channel, shown, quiet⟩
        | _ => cases replaces
      · cases native
  | _ => cases replaces

theorem ownPrints_of_replacing
    {target : Option Target} (replaces : step.newTarget? = some target)
    (within scope : Scope) (reply : Reply) :
    ownPrints within scope step reply = [] := by
  cases step with
  | foreign call =>
      cases call with
      | setStream stream => rfl
      | _ => cases replaces
  | setOutput other => rfl
  | _ => cases replaces

end Answer

end Session

end SignalHub
