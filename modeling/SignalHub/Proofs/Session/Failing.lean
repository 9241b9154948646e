import SignalHub.Proofs.Locking
import SignalHub.Proofs.Session.Gate
import SignalHub.Proofs.Session.Printing

/-!
# Arguments whose formatting fails

An emission keeps what such an argument offered before it failed.  A print is
refused before the output is touched, and nothing is left of it.
-/

namespace SignalHub

open Output Text

theorem Formatter.bounded_followedBy_of_failed
    {part : Formatter} {size : Nat}
    (failed : (part.runBounded size).succeeded = false) (rest : Formatter) :
    (part.followedBy rest).bounded size = part.bounded size := by
  rw [bounded, runBounded, run_followedBy_of_failed failed]
  rfl

namespace Session

/-! ## Emissions -/

/-- The gate is open for a category: there is a filter that accepts it, and this
sink. -/
structure OpensTo (session : Session) (category : String) (sink : Sink) :
    Prop where
  sink : session.hub.sink = some sink
  accepted :
    ∃ filter, session.hub.filter = some filter ∧
      filter.accepts session.host.acceptance category = true

/-- The step goes on, and delivers this signal first.  Any other signal is one
that a function of the host emits from inside, after it. -/
structure DeliversOnce
    (session : Session) (step : Step) (sink : Sink) (signal : Signal) :
    Prop where
  reply : (session.answer step).reply = .nothing
  deliveries :
    (session.answer step).trace.deliveries =
      signal ::
        Trace.deliveries
          ((session.host.receive session.scope sink signal).1.follow sink).2
  alone :
    sink.acts = false ∨ session.host.script = [] →
      (session.answer step).trace.deliveries = [signal]

section Emission

variable {session : Session} {step : Step} {emission : Emission}
  {sink : Sink}

/-- Through an open gate a message is delivered, however its formatting
ends. -/
theorem OpensTo.deliversOnce
    (opens : session.OpensTo emission.category sink)
    (emits : step.emission? = some emission) :
    session.DeliversOnce step sink
      (emission.message.signal emission.category emission.origin) := by
  obtain ⟨filter, filterHere, accepted⟩ := opens.accepted
  have performed := perform_of_emission emits session
  have delivered :=
    Host.deliveries_emit_of_accepted opens.sink filterHere accepted
      emission.origin emission.message
  have answered :
      (session.answer step).trace.deliveries =
        Trace.deliveries
          (session.host.emit session.scope emission.category emission.origin
            emission.message).2 := by
    rw [trace_answer, performed, Trace.deliveries_upTo]
  refine ⟨?_, answered.trans delivered, ?_⟩
  · rw [reply_answer, performed]
  · intro quiet
    rw [answered, delivered, Host.follow]
    rcases quiet with still | idle
    · rw [Host.followBy, still]
      rfl
    · rw [← session.host.script_receive session.scope sink] at idle
      rw [Host.followBy_of_idle idle]
      rfl

end Emission

/-! ## Prints -/

/-- A print that comes to nothing. -/
structure LeavesNothing (session : Session) (message : Message) : Prop where
  reply : (session.answer (.print message)).reply = .refused .panic
  /-- Also what is configured as output is the same as before. -/
  state : (session.perform (.print message)).1 = session
  /-- No stream is written, flushed or closed, and nothing is shown. -/
  untouched :
    (session.answer (.print message)).trace.transfers = [] ∧
      (session.answer (.print message)).shown = []
  /-- No mutex is taken, and no reader stays behind. -/
  unlocked :
    Trace.Passes 0 (session.perform (.print message)).2.1 ∧
      ∀ mutex,
        .hold mutex ∉ Trace.lockSteps (session.perform (.print message)).2.1
  /-- The other steps of a run are answered as if this one had not been
  made. -/
  forgotten :
    session.Settled → ∀ before after : List Step,
      (session.run (before ++ .print message :: after)).eraseIdx
          before.length =
        session.run (before ++ after)

section Printing

variable {message : Message}

theorem perform_print_of_failing
    (fails : message.program.collect.succeeded = false) (session : Session) :
    session.perform (.print message) =
      (session,
        Trace.reading session.scope
          [.formatted message.program.collect.taken message.announced],
        .refused .panic) := by
  rw [perform, printMessage_of_failing fails]
  rfl

theorem leavesNothing_of_failing
    (fails : message.program.collect.succeeded = false) (session : Session) :
    session.LeavesNothing message := by
  have performed := perform_print_of_failing fails session
  constructor
  · rw [reply_answer, performed]
  · rw [performed]
  · constructor
    · rw [trace_answer, performed, Trace.transfers_upTo,
        Trace.transfers_reading]
      rfl
    · rw [answer, performed, answerOf_of_goesOn (by simp)]
      cases session.scope <;> rfl
  · rw [performed]
    constructor
    · exact (Trace.passes_of_unlocked rfl).reading session.scope
    · intro mutex
      cases session.scope with
      | own => simp [Trace.lockSteps, Trace.reading]
      | shared => simp [Trace.lockSteps, Trace.reading]
  · intro settled before after
    apply eraseIdx_run settled
    intro reached atRest
    rw [next_of_reply (perform_print_of_failing fails reached) (by simp)]
    exact congrArg some atRest

end Printing

/-- What becomes of a message that begins with this part, if the part fails: in
the bounded buffer of an emission, or in the boundless one of a print. -/
structure Contains (part rest : Formatter) (announced : Bool) : Prop where
  emission :
    (part.runBounded messageSize).succeeded = false →
      ∀ (session : Session) (step : Step) (emission : Emission) (sink : Sink),
        step.emission? = some emission →
          emission.message = ⟨part.followedBy rest, announced⟩ →
            session.OpensTo emission.category sink →
              ∃ text,
                LongestFitting 249 (part.offeredBounded messageSize) text ∧
                  session.DeliversOnce step sink
                    ⟨emission.category, emission.origin, text⟩
  printing :
    part.collect.succeeded = false →
      ∀ session : Session,
        session.LeavesNothing ⟨part.followedBy rest, announced⟩

/-- An argument that fails harms nobody.  Its emission delivers one signal, cut
from what was offered before the failure; what would have followed it in the
message is not seen.  Its print is refused, and the output, the locks and all
other steps are as if it had never been asked for. -/
theorem failing_arguments_are_contained
    (part rest : Formatter) (announced : Bool) :
    Contains part rest announced := by
  constructor
  · intro failed session step emission sink emits same opens
    have delivers := opens.deliversOnce emits
    rw [same, Message.signal,
      Formatter.bounded_followedBy_of_failed failed] at delivers
    exact ⟨_, part.longestFitting_bounded messageSize, delivers⟩
  · intro failed session
    apply leavesNothing_of_failing
    rw [Formatter.collect, Formatter.run_followedBy_of_failed failed]
    exact failed

/-- Two pieces and an error, with more to follow. -/
theorem failing_arguments_are_contained_careless :
    ∃ reached,
      (fresh .shared false "" (Build.current "" "")).reach
          [.setSink (some .callback) none, .setFilter (some .all) none] =
        some reached ∧
      (reached.answer
          (.emit "GC" ⟨"gc.c", "fullGC", 7⟩
            ⟨(Formatter.ofPieces true true ["swe", "ep"]).followedBy
                (Formatter.text "!"), true⟩)).trace.deliveries =
        [⟨"GC", ⟨"gc.c", "fullGC", 7⟩, "sweep"⟩] ∧
      ((fresh .shared false "" (Build.current "" "")).run
          [.flush,
            .print ⟨(Formatter.ofPieces true true ["swe", "ep"]).followedBy
              (Formatter.text "!"), true⟩,
            .isConfigured]).eraseIdx 1 =
        (fresh .shared false "" (Build.current "" "")).run
          [.flush, .isConfigured] := by
  obtain ⟨reached, arrives, opens, idle⟩ :
      ∃ reached,
        (fresh .shared false "" (Build.current "" "")).reach
            [.setSink (some .callback) none, .setFilter (some .all) none] =
          some reached ∧
        reached.OpensTo "GC" .callback ∧ reached.host.script = [] :=
    ⟨_, rfl, ⟨rfl, .all, rfl, rfl⟩, rfl⟩
  obtain ⟨emission, printing⟩ :=
    failing_arguments_are_contained
      (Formatter.ofPieces true true ["swe", "ep"]) (Formatter.text "!") true
  obtain ⟨text, longest, delivers⟩ :=
    emission (by decide) reached
      (.emit "GC" ⟨"gc.c", "fullGC", 7⟩
        ⟨(Formatter.ofPieces true true ["swe", "ep"]).followedBy
            (Formatter.text "!"), true⟩)
      _ .callback rfl rfl opens
  have whole : text = "sweep" := longest.eq_of_fits (by decide)
  rw [whole] at delivers
  have nothing := printing rfl (fresh .shared false "" (Build.current "" ""))
  exact ⟨reached, arrives, delivers.alone (Or.inr idle),
    nothing.forgotten (settled_fresh _ _ _ _) [.flush] [.isConfigured]⟩

end Session

end SignalHub
