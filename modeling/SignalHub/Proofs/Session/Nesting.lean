import SignalHub.Proofs.Nesting
import SignalHub.Proofs.Session.Emitting
import SignalHub.Proofs.Session.Fatal

/-!
# Steps with calls from inside

Whatever functions of the host call from inside of a step, nothing waits, and
each of these calls is what it would be as a step of its own at that moment.
-/

namespace SignalHub

open Output Text

namespace Step

/-- Whether a step registers something, for which nobody may be inside of the
hub. -/
def registers : Step → Bool
  | .setSink _ _ | .setFilter _ _ => true
  | .setOutput _ | .setStatusPrinter _ => true
  | .foreign (.setSink _ _) | .foreign (.setFilter _ _) => true
  | .foreign (.setStatusPrinter _ _) | .foreign (.setStream _) => true
  | _ => false

/-- The readers that a step leaves behind: an abort on the shared hub never
gives back its own. -/
def keeps (within : Scope) (step : Step) : Nat :=
  match step.fatal? within with
  | some (scope, _) => if scope = .shared then 1 else 0
  | none => 0

end Step

namespace Action

/-- A call from inside as a step of its own. -/
def step? : Action → Option Step
  | .print text => some (.print (Message.text text))
  | .emit category origin text =>
      some (.emit category origin (Message.text text))
  | .poll => some .poll
  | .nothing | .both _ _ => none

/-- What the function that made a call says of the reply. -/
inductive Tells : Action → Reply → Trace → Prop where
  | emitted (category : String) (origin : Origin) (text : String) :
      Tells (.emit category origin text) .nothing []
  | printed (text : String) (result : Except Fault Nat) :
      Tells (.print text) (.ofCount (result.mapError .output))
        [.printed text result]
  | polled (signals : List Signal) :
      Tells .poll (.signals signals) [.polled signals]
  | unpolled : Tells .poll .nothing [.polled []]

end Action

namespace Session

/-- The session in which a call of that moment would be a step of its own. -/
def atMoment (session : Session) (call : Moment) : Session :=
  { session with host := call.host, scope := .shared }

/-- A call from inside does what a step does, to the same effect; then the
function that made it tells of the reply. -/
structure Matches
    (session : Session) (call : Moment) (step : Step) (told : Trace) :
    Prop where
  asks : call.action.step? = some step
  leaves :
    ((session.atMoment call).perform step).1 =
      { session.atMoment call with
          host := (call.host.perform call.action).1 }
  trace :
    call.trace = ((session.atMoment call).perform step).2.1 ++ told
  tells :
    call.action.Tells ((session.atMoment call).perform step).2.2 told

/-! ## Calls and steps -/

theorem matches_print
    (session : Session) (before : Trace) (host : Host) (text : String) :
    session.Matches ⟨before, host, .print text⟩ (.print (Message.text text))
      [.printed text (host.printBytes .shared (bytes text)).2.2] := by
  have printed :
      host.printMessage .shared (Message.text text) =
        ((host.printAction text).1,
          Trace.reading .shared
            (.formatted 1 false ::
              (host.printBytes .shared (bytes text)).2.1),
          (host.printBytes .shared (bytes text)).2.2.mapError .output) := by
    rw [Host.printMessage, printReading_text]
    rfl
  constructor
  · rfl
  · simp only [perform, atMoment, printed]
    rfl
  · simp only [perform, atMoment, printed]
    rfl
  · simp only [perform, atMoment, printed]
    exact .printed text _

theorem matches_emit
    (session : Session) (before : Trace) (host : Host) (category : String)
    (origin : Origin) (text : String) :
    session.Matches ⟨before, host, .emit category origin text⟩
      (.emit category origin (Message.text text)) [] := by
  constructor
  · rfl
  · rfl
  · exact (List.append_nil _).symm
  · exact .emitted category origin text

theorem matches_poll (session : Session) (before : Trace) (host : Host) :
    session.Matches ⟨before, host, .poll⟩ .poll
      [.polled ((host.pollBuffer .shared).2.2.getD [])] := by
  constructor
  · rfl
  · rfl
  · rfl
  · simp only [perform, atMoment]
    cases (host.pollBuffer .shared).2.2 with
    | none => exact .unpolled
    | some signals => exact .polled signals

theorem exists_matches_of_mem
    {before : Trace} {host : Host} {action : Action} {call : Moment}
    (session : Session) (member : call ∈ action.calls before host) :
    ∃ step told, session.Matches call step told := by
  induction action generalizing host before with
  | nothing => cases member
  | both first second inFirst inSecond =>
      rcases List.mem_append.mp member with member | member
      · exact inFirst member
      · exact inSecond member
  | print text =>
      cases List.mem_singleton.mp member
      exact ⟨_, _, matches_print session before host text⟩
  | emit category origin text =>
      cases List.mem_singleton.mp member
      exact ⟨_, _, matches_emit session before host category origin text⟩
  | poll =>
      cases List.mem_singleton.mp member
      exact ⟨_, _, matches_poll session before host⟩

/-! ## Nothing waits -/

section Unhindered

variable (host : Host)

theorem unhindered_printMessage (scope : Scope) (message : Message) :
    Trace.Unhindered 0 (host.printMessage scope message).2.1 := by
  have begun :
      Trace.Unhindered 0
        [.formatted message.program.collect.taken message.announced] :=
    .of_unlocked rfl
  have inside :
      Trace.Unhindered 0 (host.printReading scope message).2.1 := by
    simp only [Host.printReading]
    split
    · exact begun.append (host.unhindered_printBytes scope _)
    · exact begun
  exact inside.reading scope

theorem unhindered_foreign_print (message : Foreign.ForeignString) :
    Trace.Unhindered 0 (Foreign.print host message).2.1 := by
  have begun : Trace.Unhindered 0 [.formatted 1 false] := .of_unlocked rfl
  have printed :=
    begun.append
      (host.unhindered_printBytes .shared (bytes (incoming message)))
  rw [Foreign.print, printReading_text]
  cases (host.printBytes .shared (bytes (incoming message))).2.2 with
  | ok count => exact printed.reading .shared
  | error fault => exact (printed.append (.of_unlocked rfl)).reading .shared

theorem unhindered_printStatus (scope : Scope) :
    Trace.Unhindered 0 (host.printStatus scope).2 := by
  cases registered : (host.hub scope).statusPrinter with
  | none =>
      rw [Host.printStatus_of_none registered]
      exact .of_unlocked rfl
  | some printer =>
      rw [Host.printStatus_of_some registered, ← Host.perform_all]
      have called : Trace.Unhindered 0 [.status printer.party] :=
        .of_unlocked rfl
      exact called.append (host.unhindered_perform (.all printer.actions))

theorem unhindered_formatting (step : Step) :
    Trace.Unhindered 0 step.formatting := by
  apply Trace.Unhindered.of_unlocked
  cases step <;> rfl

theorem unhindered_entering (scope : Scope) :
    Trace.Unhindered (if scope = .shared then 1 else 0)
      (Trace.entering scope) := by
  cases scope with
  | shared => exact .share
  | own => exact .of_unlocked rfl

theorem unhindered_fatal (scope : Scope) (origin : Origin) (text : String) :
    Trace.Unhindered (if scope = .shared then 1 else 0)
      (host.fatal scope origin text).2 := by
  have emitted :=
    host.unhindered_emitReading scope "ERROR" origin (Message.text text)
  have reported :=
    unhindered_printStatus (host.fatalPath scope origin text).emitted scope
  have flushed :=
    (host.fatalPath scope origin text).reported.unhindered_flushOutput scope
  have failing :
      Trace.Unhindered 0
        (Trace.failing (host.fatalPath scope origin text).fault) := by
    apply Trace.Unhindered.of_unlocked
    cases (host.fatalPath scope origin text).fault <;> rfl
  rw [Host.fatal_eq_fatalPath]
  exact
    ((((unhindered_entering scope).append emitted).append reported).append
      flushed).append failing

/-- Emissions that are refused for their index do nothing. -/
theorem unhindered_bySeverity
    (session : Session) (level : Int) (call : Severity → Host × Trace)
    (calls : ∀ severity, Trace.Unhindered 0 (call severity).2) :
    Trace.Unhindered 0 (session.bySeverity level call).2.1 := by
  rw [bySeverity]
  cases Severity.ofIndex level with
  | error fault => exact .of_unlocked rfl
  | ok severity => exact calls severity

theorem unhindered_answer
    (build : Build) (call : ForeignCall)
    (calls : (Step.foreign call).registers = false)
    (goesOn : (Step.foreign call).fatal? .shared = none) :
    Trace.Unhindered 0 (host.answer build call).2.1 := by
  cases call with
  | emit => exact host.unhindered_emit .shared _ _ _
  | emitAssertion => exact host.unhindered_emit .shared _ _ _
  | emitBySeverity level file function line message =>
      rw [Host.answer, Foreign.emitBySeverity]
      cases Severity.ofIndex level with
      | error fault => exact .of_unlocked rfl
      | ok severity => exact host.unhindered_emit .shared _ _ _
  | emitSystemFault level message file function line code =>
      rw [Host.answer, Foreign.emitSystemFault]
      cases Severity.ofIndex level with
      | error fault => exact .of_unlocked rfl
      | ok severity => exact host.unhindered_emit .shared _ _ _
  | print message => exact unhindered_foreign_print host message
  | setSink | setFilter | setStatusPrinter | setStream => cases calls
  | fatal => cases goesOn
  | _ => exact .of_unlocked rfl

/-- Apart from registrations no step has to wait, nor has anything that is
called from inside of it. -/
theorem unhindered_perform
    (session : Session) (step : Step) (calls : step.registers = false) :
    Trace.Unhindered (step.keeps session.scope)
      (session.perform step).2.1 := by
  cases reports : step.fatal? session.scope with
  | some report =>
      obtain ⟨scope, origin, text⟩ := report
      have whole :=
        (unhindered_formatting step).append
          (unhindered_fatal session.host scope origin text)
      rw [Nat.zero_add] at whole
      rw [perform_of_fatal reports, Step.keeps, reports]
      exact whole
  | none =>
      rw [Step.keeps, reports]
      cases step with
      | setSink | setFilter | setOutput | setStatusPrinter => cases calls
      | wants category =>
          obtain ⟨_, asked⟩ :=
            session.host.unhindered_gate session.scope category
          exact asked.reading session.scope
      | emit => exact session.host.unhindered_emit _ _ _ _
      | emitAssertion => exact session.host.unhindered_emit _ _ _ _
      | emitBySeverity =>
          apply unhindered_bySeverity
          intro severity
          exact session.host.unhindered_emit _ _ _ _
      | emitSystemFault =>
          apply unhindered_bySeverity
          intro severity
          exact session.host.unhindered_emit _ _ _ _
      | print message => exact unhindered_printMessage session.host _ _
      | flush =>
          exact (session.host.unhindered_flushOutput _).reading session.scope
      | poll =>
          exact (session.host.unhindered_pollBuffer _).reading session.scope
      | fatal origin message =>
          have fails : ¬ message.program.collect.succeeded = true := by
            intro succeeds
            rw [Step.fatal?, if_pos succeeds] at reports
            cases reports
          simp only [perform, Host.fatalMessage, if_neg fails]
          exact .of_unlocked rfl
      | foreign call =>
          exact
            unhindered_answer session.host session.build call calls
              (by cases call <;> first | rfl | cases reports)
      | _ => exact .of_unlocked rfl

end Unhindered

/-! ## Whoever acts from inside -/

/-- A function of the host acts on the way of a step: from inside of the step's
own emission, as status printer before an abort, or from inside of an emission
that another one made. -/
inductive Acts (session : Session) (step : Step) : Moment → Prop where
  | emitting {scope : Scope} {emission : Emission} {acting : Moment}
      (emits : step.emissionOn? session.scope = some (scope, emission))
      (acts :
        session.host.acting? scope emission.category emission.origin
          emission.message = some acting) :
      Acts session step (acting.following (Trace.entering scope))
  | failing {scope : Scope} {origin : Origin} {text : String} {acting : Moment}
      (reports : step.fatal? session.scope = some (scope, origin, text))
      (acts :
        session.host.acting? scope "ERROR" origin (Message.text text) =
          some acting) :
      Acts session step
        (acting.following (step.formatting ++ Trace.entering scope))
  | reporting {scope : Scope} {origin : Origin} {text : String}
      {printer : StatusPrinter}
      (reports : step.fatal? session.scope = some (scope, origin, text))
      (registered :
        (session.host.hub scope).statusPrinter = some printer) :
      Acts session step
        { before :=
            step.formatting ++ Trace.entering scope ++
              (session.host.fatalPath scope origin text).emission ++
              [.status printer.party]
          host := (session.host.fatalPath scope origin text).emitted
          action := .all printer.actions }
  | nested {outer call acting : Moment} {category : String} {origin : Origin}
      {text : String}
      (acts : Acts session step outer)
      (member : call ∈ outer.calls)
      (emits : call.action = .emit category origin text)
      (actsInside :
        call.host.acting? .shared category origin (Message.text text) =
          some acting) :
      Acts session step (acting.following (call.before ++ [.lock .share]))

/-- What a step does while a function of the host acts on its way: the calls of
that function, one after the other, from its own call on and with nothing between
them.  At each of them nothing is held but readers, nothing waits, and it is what
it would be as a step of its own. -/
structure Encloses
    (session : Session) (step : Step) (acting : Moment) : Prop where
  called : ∃ early event,
    acting.before = early ++ [event] ∧ event.isTurn = true
  ready : ∃ readers, acting.before.Passes readers
  contained : ∃ late,
    (session.perform step).2.1 = acting.before ++ acting.trace ++ late
  calls : acting.trace = acting.calls.flatMap Moment.trace
  each : ∀ call ∈ acting.calls, ∃ early late,
    acting.trace = early ++ call.trace ++ late ∧
      call.before = acting.before ++ early ∧
      (∃ readers, call.before.Passes readers) ∧
      call.trace.Unhindered 0 ∧
      ∃ inner told, session.Matches call inner told

section Acts

variable {session : Session} {step : Step} {acting : Moment}

/-- Of a function's work nothing is left to say once it has its place in the
step. -/
theorem encloses_of_contained
    (called : ∃ early event,
      acting.before = early ++ [event] ∧ event.isTurn = true)
    (ready : ∃ readers, acting.before.Passes readers)
    (contained : ∃ late,
      (session.perform step).2.1 = acting.before ++ acting.trace ++ late) :
    session.Encloses step acting := by
  refine ⟨called, ready, contained, ?_, ?_⟩
  · exact acting.host.perform_eq_calls acting.before acting.action
  · intro call member
    obtain ⟨early, late, split, start⟩ := Host.split_of_mem_calls member
    obtain ⟨readers, passes⟩ := ready
    exact
      ⟨early, late, split, start,
        ⟨readers, Host.passes_of_mem_calls passes member⟩,
        call.host.unhindered_perform call.action,
        exists_matches_of_mem session member⟩

theorem exists_isTurn_following
    (called : ∃ early event,
      acting.before = early ++ [event] ∧ event.isTurn = true)
    (earlier : Trace) :
    ∃ early event,
      (acting.following earlier).before = early ++ [event] ∧
        event.isTurn = true := by
  obtain ⟨early, event, before, turn⟩ := called
  refine ⟨earlier ++ early, event, ?_, turn⟩
  rw [Moment.following, before, List.append_assoc]

/-- An emission on a hub, as part of a step, encloses whoever acts on its
way. -/
theorem encloses_of_emission
    {host : Host} {scope : Scope} {category : String} {origin : Origin}
    {message : Message} {before : Trace}
    (acts : host.acting? scope category origin message = some acting)
    (ready : ∃ readers, before.Passes readers)
    (contained : ∃ late,
      (session.perform step).2.1 =
        before ++ (host.emitReading scope category origin message).2 ++ late) :
    session.Encloses step (acting.following before) := by
  apply encloses_of_contained
  · exact exists_isTurn_following (Host.exists_isTurn_of_acting acts) before
  · obtain ⟨readers, passes⟩ := ready
    exact
      ⟨_, passes.append (host.unhindered_of_acting acts).passes⟩
  · obtain ⟨late, split⟩ := contained
    refine ⟨late, ?_⟩
    rw [split, Host.emitReading_of_acting acts, Moment.following,
      ← List.append_assoc]
    rfl

theorem encloses_of_acts
    (acts : session.Acts step acting) : session.Encloses step acting := by
  induction acts with
  | @emitting scope emission acting emits acts =>
      apply encloses_of_emission acts
      · exact ⟨_, (unhindered_entering scope).passes⟩
      · rw [perform_of_emissionOn emits, Host.emitted, Host.emit_eq]
        cases scope with
        | own => exact ⟨[], (List.append_nil _).symm⟩
        | shared => exact ⟨[.lock .unshare], rfl⟩
  | @failing scope origin text acting reports acts =>
      have entered :=
        (unhindered_formatting step).append (unhindered_entering scope)
      apply encloses_of_emission acts
      · exact ⟨_, entered.passes⟩
      · rw [perform_of_fatal reports, Host.fatal_eq_fatalPath]
        simp only [List.append_assoc]
        exact ⟨_, rfl⟩
  | @reporting scope origin text printer reports registered =>
      obtain ⟨acts, performed, status, _⟩ :=
        (session.host.fatalPath_from scope origin text).status printer
          registered
      have emitted :=
        ((unhindered_formatting step).append
            (unhindered_entering scope)).append
          (session.host.unhindered_emitReading scope "ERROR" origin
            (Message.text text))
      have called : Trace.Unhindered 0 [.status printer.party] :=
        .of_unlocked rfl
      apply encloses_of_contained
      · exact ⟨_, _, rfl, rfl⟩
      · exact ⟨_, (emitted.append called).passes⟩
      · rw [perform_of_fatal reports, Host.fatal_eq_fatalPath, status,
          Moment.trace, Host.perform_all, performed]
        simp only [List.append_assoc, List.cons_append, List.nil_append]
        exact ⟨_, rfl⟩
  | @nested outer call acting category origin text acts member emits inside
      encloses =>
      obtain ⟨early, late, split, start, ready, _⟩ := encloses.each call member
      obtain ⟨last, whole⟩ := encloses.contained
      have emitted :
          call.trace =
            .lock .share ::
                (call.host.emitReading .shared category origin
                  (Message.text text)).2 ++
              [.lock .unshare] := by
        rw [Moment.trace, emits]
        rfl
      apply encloses_of_emission inside
      · obtain ⟨readers, passes⟩ := ready
        exact ⟨_, passes.append Trace.passes_share⟩
      · rw [whole, split, start, emitted]
        simp only [List.append_assoc, List.cons_append, List.nil_append]
        exact ⟨_, rfl⟩

end Acts

/-- Whatever the state, whatever functions of the host call from inside of each
other, and whether or not writers of other threads are queued: no step waits for
a lock that its own thread holds.  While a function of the host runs no mutex is
held, and the lock for reading at most.  And each call from inside is over
before the function that made it goes on, with the reply and the effects that it
would have as a step of its own at that moment. -/
theorem nested_calls_never_wait
    (session : Session) (step : Step) (calls : step.registers = false) :
    Trace.Unhindered (step.keeps session.scope) (session.perform step).2.1 ∧
      ∀ acting, session.Acts step acting → session.Encloses step acting :=
  ⟨unhindered_perform session step calls,
    fun _ acts => encloses_of_acts acts⟩

/-- A callback prints and emits, and from inside of that emission it prints
again, while a writer is queued all along. -/
theorem nested_calls_never_wait_twice :
    ∃ session outer inner last,
      (fresh .shared false "" (Build.current "" "")).reach
          [.setSink (some .callback)
              (some
                [.both (.print "x") (.emit "GC" ⟨"gc.c", "scavenge", 3⟩ "in"),
                  .print "y"]),
            .setFilter (some .all) none] =
          some session ∧
        session.Acts
          (.emitAssertion ⟨"gc.c", "fullGC", 7⟩ "out") outer ∧
        session.Acts
          (.emitAssertion ⟨"gc.c", "fullGC", 7⟩ "out") inner ∧
        session.Encloses
          (.emitAssertion ⟨"gc.c", "fullGC", 7⟩ "out") inner ∧
        outer.calls.length = 2 ∧
        inner.calls.map Moment.action = [.print "y"] ∧
        Locks.free.replay (fun _ => true)
            (session.perform
              (.emitAssertion ⟨"gc.c", "fullGC", 7⟩ "out")).2.1.lockSteps =
          some last ∧
        last.readers = 0 := by
  obtain ⟨session, arrives, outer, acts, calls, call, second, emits, acting,
      inside, callsInside⟩ :
      ∃ session,
        (fresh .shared false "" (Build.current "" "")).reach
            [.setSink (some .callback)
                (some
                  [.both (.print "x")
                      (.emit "GC" ⟨"gc.c", "scavenge", 3⟩ "in"),
                    .print "y"]),
              .setFilter (some .all) none] =
            some session ∧
          ∃ outer,
            session.Acts
              (.emitAssertion ⟨"gc.c", "fullGC", 7⟩ "out") outer ∧
            outer.calls.length = 2 ∧
            ∃ call, outer.calls[1]? = some call ∧
              call.action = .emit "GC" ⟨"gc.c", "scavenge", 3⟩ "in" ∧
              ∃ acting,
                call.host.acting? .shared "GC" ⟨"gc.c", "scavenge", 3⟩
                    (Message.text "in") = some acting ∧
                  (acting.following (call.before ++ [.lock .share])).calls.map
                      Moment.action = [.print "y"] := by
    exact ⟨_, rfl, _, .emitting rfl rfl, rfl, _, rfl, rfl, _, rfl, rfl⟩
  have actsInside :
      session.Acts (.emitAssertion ⟨"gc.c", "fullGC", 7⟩ "out")
        (acting.following (call.before ++ [.lock .share])) :=
    .nested acts (List.mem_of_getElem? second) emits inside
  obtain ⟨unhindered, encloses⟩ :=
    nested_calls_never_wait session
      (.emitAssertion ⟨"gc.c", "fullGC", 7⟩ "out") rfl
  obtain ⟨last, replayed, _, readers⟩ :=
    unhindered.passes (fun _ => true) Locks.free ⟨rfl, rfl⟩
  exact
    ⟨session, outer, _, last, arrives, acts, actsInside,
      encloses _ actsInside, calls, callsInside, replayed, readers⟩

end Session

end SignalHub
