import SignalHub.Proofs.Fatal
import SignalHub.Proofs.Session.Printing

/-!
# The end of a session

A fatal error ends a session whatever happens on the way.  What was printed on
the output before and on the way is not lost, if the output refuses nothing
when it is flushed.
-/

namespace SignalHub

open Output Text

namespace Step

/-- The fatal error that a step reports: on which hub, from where, and the
text.  A message whose formatting fails stops the call before. -/
def fatal? (within : Scope) : Step → Option (Scope × Origin × String)
  | .fatal origin message =>
      if message.program.collect.succeeded then
        some (within, origin, message.program.collect.buffer)
      else none
  | .foreign (.fatal message file line) =>
      some (.shared, Foreign.fatalOrigin file line, incoming message)
  | _ => none

/-- What happens before the error is reported: a caller's message is
formatted. -/
def formatting : Step → Trace
  | .fatal _ message =>
      [.formatted message.program.collect.taken message.announced]
  | _ => []

end Step

namespace Session

section Abort

variable {session : Session} {step : Step} {scope : Scope} {origin : Origin}
  {text : String}

theorem perform_of_fatal
    (reports : step.fatal? session.scope = some (scope, origin, text)) :
    session.perform step =
      ({ session with
          host := (session.host.fatalPath scope origin text).flushed },
        step.formatting ++ (session.host.fatal scope origin text).2,
        .aborted) := by
  cases step with
  | fatal other message =>
      by_cases succeeds : message.program.collect.succeeded = true
      · rw [Step.fatal?, if_pos succeeds] at reports
        cases reports
        rw [perform, Host.fatalMessage]
        simp only [if_pos succeeds]
        rfl
      · rw [Step.fatal?, if_neg succeeds] at reports
        cases reports
  | foreign call =>
      cases call with
      | fatal message file line =>
          cases reports
          rfl
      | _ => cases reports
  | _ => cases reports

/-- Only a fatal error ends a session. -/
theorem goesOn_of_survived
    (survives : step.fatal? session.scope = none) :
    (session.perform step).2.2 ≠ .aborted := by
  have bySeverity :
      ∀ (level : Int) (call : Severity → Host × Trace),
        (session.bySeverity level call).2.2 ≠ .aborted := by
    intro level call
    rw [Session.bySeverity]
    split <;> exact Reply.noConfusion
  cases step with
  | emitBySeverity => exact bySeverity _ _
  | emitSystemFault => exact bySeverity _ _
  | print message => exact ofCount_ne_aborted _
  | flush => exact ofFault_ne_aborted _
  | poll =>
      simp only [perform]
      split <;> exact Reply.noConfusion
  | bufferState =>
      simp only [perform]
      split <;> exact Reply.noConfusion
  | fatal origin message =>
      by_cases succeeds : message.program.collect.succeeded = true
      · rw [Step.fatal?, if_pos succeeds] at survives
        cases survives
      · rw [perform, Host.fatalMessage]
        simp only [if_neg succeeds]
        exact Reply.noConfusion
  | foreign call =>
      cases call with
      | crashDumpName buffer =>
          simp only [perform, Host.answer]
          split <;> exact Reply.noConfusion
      | fatal => cases survives
      | _ => exact Reply.noConfusion
  | _ => exact Reply.noConfusion

/-- How a session ends with a step: nothing is answered after it, and what is
seen of the step is its path and, of a failed flush, a record for debugging. -/
structure Aborts
    (session : Session) (step : Step) (scope : Scope) (path : FatalPath) :
    Prop where
  reply : (session.answer step).reply = .aborted
  host : (session.perform step).1.host = path.flushed
  last : session.next step = none
  run : ∀ rest, session.run (step :: rest) = [session.answer step]
  trace :
    (session.answer step).trace =
      (step.formatting ++ Trace.entering scope ++ path.emission ++
          path.status ++ path.flushing).upTo session.maximum ++
        if session.maximum.admits .debug then Trace.failing path.fault else []
  /-- After a flush of the screen it shows all that was printed on it. -/
  shown : path.flushed.ports.screen.waiting = [] →
    (session.answer step).shown = (path.emission ++ path.status).shown

theorem upTo_failing (maximum : Verbosity) (fault : Option Fault) :
    (Trace.failing fault).upTo maximum =
      if maximum.admits .debug then Trace.failing fault else [] := by
  cases fault with
  | none => simp [Trace.failing, Trace.upTo]
  | some cause =>
      simp only [Trace.failing, Trace.upTo, List.filter_cons, Trace.sees,
        List.filter_nil]
      rfl

theorem aborts_of_fatal
    (reports : step.fatal? session.scope = some (scope, origin, text)) :
    session.Aborts step scope (session.host.fatalPath scope origin text) := by
  have performed := perform_of_fatal reports
  rw [Host.fatal_eq_fatalPath] at performed
  constructor
  · rw [reply_answer, performed]
  · rw [performed]
  · rw [next, performed]
  · intro rest
    rw [run, answer, performed]
  · rw [trace_answer, performed, ← upTo_failing]
    simp only [Trace.upTo, List.filter_append, List.append_assoc]
  · intro shows
    have entering : Trace.shown (Trace.entering scope) = [] := by
      cases scope <;> rfl
    have formatting : Trace.shown step.formatting = [] := by
      cases step <;> rfl
    have failing : ∀ fault, Trace.shown (Trace.failing fault) = [] := by
      intro fault
      cases fault <;> rfl
    have flushing :
        Trace.shown (session.host.fatalPath scope origin text).flushing = [] :=
      Host.shown_flushOutput _ scope
    rw [answer, performed, answerOf]
    simp only [shows, Trace.shown_append, entering, formatting, failing,
      flushing, List.length_nil, Nat.sub_zero, List.take_length,
      List.nil_append, List.append_nil]

/-! ## What is not lost -/

/-- The prints on a hub from a session on, during steps and on a path. -/
def printsUntil
    (start : Session) (scope : Scope) (during : List Step)
    (path : FatalPath) : List (Bytes × Bool) :=
  printsDuring start.scope scope during (start.run during) ++
    Trace.printsOn scope (path.emission ++ path.status)

/-- A session that ended with a path lost nothing, provided that the output
refused nothing when it was flushed.  A stream that was the target of the hub at
some time before has every chunk that was printed on it since then, before the
path and on it; and so has a file of the host that refused nothing all the
while. -/
structure LosesNothing
    (session : Session) (scope : Scope) (path : FatalPath) : Prop where
  stream : ∀ (start : Session) (during : List Step) (stream : Stream),
    start.reach during = some session →
      (∀ step ∈ during, step.replaced? start.scope ≠ some scope) →
      (start.host.hub scope).channel.stream? = some stream →
      stream.Sound →
        ∃ last chunks,
          (path.flushed.hub scope).channel.stream? = some last ∧
            last.name = stream.name ∧ last.capacity = stream.capacity ∧
            List.Forall₂ Leaves (printsUntil start scope during path)
              chunks ∧
            last.content = stream.content ++ chunks.flatten ∧
            (stream.device.refusal.kind ≠ .interrupted →
              (∀ transfer ∈ path.flushing.transfers, transfer.Progresses) →
                last.device.content = stream.content ++ chunks.flatten)
  file : ∀ (start : Session) (during : List Step) (name : String),
    start.reach during = some session →
      (∀ step ∈ during, step.replaced? start.scope ≠ some scope) →
      start.scope = .shared → scope = .shared →
      (start.host.hub scope).channel.current = .file name →
      (start.host.ports.file name).Willing →
        (∀ print ∈ printsUntil start scope during path, print.2 = true) ∧
          (path.flushed.ports.file name).device.content =
            (start.host.ports.file name).content ++
              ((printsUntil start scope during path).map Prod.fst).flatten

/-- From any time on the output carries what is printed on it to the flush. -/
theorem carries_until
    {alone : Prop} {start : Session} {during : List Step} {path : FatalPath}
    (leads : path.From session.host scope origin text)
    (arrives : start.reach during = some session)
    (keeps : ∀ step ∈ during, step.replaced? start.scope ≠ some scope)
    (only : alone → start.scope = .shared ∧ scope = .shared) :
    Host.Carries scope alone start.host path.reported
      (printsUntil start scope during path) := by
  obtain ⟨_, before⟩ := carries_reach arrives keeps only
  have onPath := leads.carries.weaken fun byItself => (only byItself).2
  exact before.trans onPath

theorem losesNothing_of_from
    {path : FatalPath} (leads : path.From session.host scope origin text) :
    session.LosesNothing scope path := by
  have flushes := leads.flushes
  constructor
  · intro start during stream arrives keeps streaming sound
    have carries :
        Host.Carries scope False start.host path.reported
          (printsUntil start scope during path) :=
      carries_until leads arrives keeps False.elim
    obtain ⟨middle, transfers, chunks, streamingThen, adds, leaves⟩ :=
      carries.stream stream streaming
    obtain ⟨last, early, streamingLast, name, capacity, _, split, device, _, _,
        complete⟩ :=
      flushes.stream middle streamingThen
    have content : last.content = stream.content ++ chunks.flatten := by
      rw [← adds.content sound, Stream.content, device, List.append_assoc,
        split, Stream.content]
    refine
      ⟨last, chunks, streamingLast, name.trans adds.name,
        capacity.trans adds.capacity, leaves, content, ?_⟩
    intro finite progress
    rw [← adds.refusal] at finite
    have empty := complete finite progress
    rw [Stream.content, empty, List.append_nil] at content
    exact content
  · intro start during name arrives keeps own shared here willing
    have carries :
        Host.Carries scope True start.host path.reported
          (printsUntil start scope during path) :=
      carries_until leads arrives keeps fun _ => ⟨own, shared⟩
    have elsewhere : (start.host.hub scope).channel.stream? = none := by
      rw [Channel.stream?_eq_current, here]
      rfl
    obtain ⟨willingThen, content, succeed⟩ :=
      carries.file trivial name here willing
    have current := (carries.elsewhere elsewhere).trans here
    obtain ⟨_, flushed, _⟩ := flushes.file name current
    obtain ⟨after, flush, _, _, device⟩ := willingThen.flush
    rw [flush] at flushed
    refine ⟨succeed, ?_⟩
    rw [(Prod.mk.inj flushed).1, device, content]

/-- Whatever the state, a fatal error takes its path to the end and aborts the
session there, also after a failed flush; and the output that is current then
keeps all that was printed on it, before and on the path. -/
theorem fatal_error_flushes_and_aborts
    (reports : step.fatal? session.scope = some (scope, origin, text)) :
    (session.host.fatalPath scope origin text).From session.host scope origin
        text ∧
      session.Aborts step scope
          (session.host.fatalPath scope origin text) ∧
        session.LosesNothing scope
          (session.host.fatalPath scope origin text) := by
  have leads := session.host.fatalPath_from scope origin text
  exact ⟨leads, aborts_of_fatal reports, losesNothing_of_from leads⟩

end Abort

/-- A text is held back when a status printer adds to it on the way to an
abort. -/
theorem fatal_error_flushes_and_aborts_reporting :
    ∃ start session path last chunks,
      (fresh .shared false "" (Build.current "" "")).next
          (.setOutput
            (some (.stream ⟨"log", Device.boundless, some 8, []⟩))) =
          some start ∧
        start.reach
            [.setStatusPrinter (some [.print "x"]),
              .print (Message.text "hi")] =
          some session ∧
        path =
          session.host.fatalPath .shared (Foreign.fatalOrigin "boundary" 7)
            (incoming (some [33])) ∧
        path.From session.host .shared (Foreign.fatalOrigin "boundary" 7)
          (incoming (some [33])) ∧
        session.Aborts (.foreign (.fatal (some [33]) "boundary" 7)) .shared
          path ∧
        (path.flushed.hub .shared).channel.stream? = some last ∧
        List.Forall₂ Leaves
          (printsUntil start .shared
            [.setStatusPrinter (some [.print "x"]),
              .print (Message.text "hi")] path) chunks ∧
        last.device.content = chunks.flatten := by
  obtain ⟨start, installs, streaming⟩ :
      ∃ start,
        (fresh .shared false "" (Build.current "" "")).next
            (.setOutput
              (some (.stream ⟨"log", Device.boundless, some 8, []⟩))) =
            some start ∧
          (start.host.hub .shared).channel.stream? =
            some ⟨"log", Device.boundless, some 8, []⟩ :=
    ⟨_, rfl, rfl⟩
  obtain ⟨session, arrives, streamingThen⟩ :
      ∃ session,
        start.reach
            [.setStatusPrinter (some [.print "x"]),
              .print (Message.text "hi")] =
            some session ∧
          ((session.host.fatalPath .shared (Foreign.fatalOrigin "boundary" 7)
              (incoming (some [33]))).reported.hub .shared).channel.stream? =
            some ⟨"log", Device.boundless, some 8, bytes "hi" ++ bytes "x"⟩ := by
    cases installs
    exact ⟨_, rfl, rfl⟩
  have reports :
      (Step.foreign (.fatal (some [33]) "boundary" 7)).fatal? session.scope =
        some
          (.shared, Foreign.fatalOrigin "boundary" 7, incoming (some [33])) :=
    rfl
  obtain ⟨leads, aborts, loses⟩ := fatal_error_flushes_and_aborts reports
  have written :
      Stream.writeOut
          ⟨"log", Device.boundless, some 8, bytes "hi" ++ bytes "x"⟩ =
        (⟨"log",
            { Device.boundless with content := bytes "hi" ++ bytes "x" },
            some 8, []⟩,
          [.wrote "log" (bytes "hi" ++ bytes "x")], none) := by
    rw [Stream.writeOut, pour_boundless _ _ (by decide)]
  have flushing :
      Trace.transfers
          (session.host.fatalPath .shared (Foreign.fatalOrigin "boundary" 7)
            (incoming (some [33]))).flushing =
        [.wrote "log" (bytes "hi" ++ bytes "x"), .flushed "log"] := by
    have traced := congrArg (fun result => result.2.1) leads.flush
    simp only at traced
    rw [← traced, Host.flushOutput,
      Channel.flush_of_stream streamingThen (Stream.flush_of_writeOut written),
      Trace.transfers_holding]
    rfl
  have keeps :
      ∀ step ∈
          [Step.setStatusPrinter (some [.print "x"]),
            .print (Message.text "hi")],
        step.replaced? start.scope ≠ some .shared := by
    intro step member
    simp only [List.mem_cons, List.not_mem_nil, or_false] at member
    rcases member with rfl | rfl <;> simp [Step.replaced?]
  obtain ⟨last, chunks, streamingLast, _, _, leaves, _, complete⟩ :=
    loses.stream start _ _ arrives keeps streaming (fun _ => rfl)
  refine
    ⟨start, session, _, last, chunks, installs, arrives, rfl, leads, aborts,
      streamingLast, leaves, ?_⟩
  have content := complete (by decide) (by
    intro transfer member
    rw [flushing] at member
    simp only [List.mem_cons, List.not_mem_nil, or_false] at member
    rcases member with rfl | rfl
    · exact (by decide : bytes "hi" ++ bytes "x" ≠ [])
    · trivial)
  exact content

end Session

end SignalHub
