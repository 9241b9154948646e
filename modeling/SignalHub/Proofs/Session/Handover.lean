import SignalHub.Proofs.Output.HostFile
import SignalHub.Proofs.Session.Output

/-!
# Handing over to a new target

A replacement installs its target whatever happens.  The stream before it is
written out, flushed if that succeeded, written out once more and closed, and
is not heard of again.  A file of the host and standard output are flushed once
instead.
-/

namespace SignalHub

open Output Text

namespace Session

/-- The record of a flush that fails before a replacement, if the journal lets
it through. -/
def handoverRecords (maximum : Verbosity) (fault : Option Fault) :
    List Record :=
  match fault with
  | some cause =>
      if maximum.admits .debug then
        [flushRecord "vm_diagnostics::output" cause]
      else []
  | none => []

theorem records_noted (maximum : Verbosity) (fault : Option Fault) :
    (Trace.records (Channel.noted fault)).filter
        (fun record => maximum.admits record.level) =
      handoverRecords maximum fault := by
  cases fault with
  | none => rfl
  | some cause =>
      have one :
          Trace.records (Channel.noted (some cause)) =
            [flushRecord "vm_diagnostics::output" cause] := rfl
      rw [one, List.filter_cons]
      rfl

/-- What the replacing step shows of a stream that was the target. -/
structure Ends (old : Stream) (maximum : Verbosity) (answer : Answer) :
    Prop where
  /-- A first attempt to write out, a flush if that succeeded, a second attempt
  with what is left, and the end. -/
  attempts : ∃ left rest written again fault ignored,
    old.writeOut = (left, written, fault) ∧
      left.writeOut = (rest, again, ignored) ∧
      answer.trace.transfers =
        written ++ (if fault = none then [.flushed old.name] else []) ++
          again ++ [.closed old.name] ∧
      accepted written ++ left.held = old.held ∧
      accepted again ++ rest.held = left.held ∧
      (fault = none ↔ left.held = []) ∧
      answer.trace.records =
        handoverRecords maximum (fault.or old.device.flush.2)
  own : ∀ transfer ∈ answer.trace.transfers, transfer.stream = old.name

theorem ends_of_stream
    {session : Session} {old : Stream}
    (streaming : session.stream? = some old) (target : Option Target) :
    Ends old session.maximum (session.answer (.setOutput target)) := by
  cases first : old.writeOut with
  | mk left result =>
      obtain ⟨written, fault⟩ := result
      cases second : left.writeOut with
      | mk rest remains =>
          obtain ⟨again, ignored⟩ := remains
          obtain ⟨adds, split, outcome⟩ := Stream.writeOut_adds first
          obtain ⟨_, splitAgain, _⟩ := Stream.writeOut_adds second
          have flushed := Stream.flush_of_writeOut first
          have closed := Stream.close_of_writeOut second
          have transfers :=
            transfers_setOutput_of_stream streaming flushed target
          constructor
          · refine ⟨left, rest, written, again, fault, ignored, first, second, ?_,
              split, splitAgain, outcome, ?_⟩
            · rw [transfers, Stream.close_flushedUnless first, closed,
                adds.name]
              simp only [List.append_assoc]
            · obtain ⟨_, _, _, _, traced⟩ := step_setOutput session target
              rw [traced, Trace.records_upTo,
                Channel.replace_of_stream streaming flushed,
                ← records_noted]
              simp
          · exact own_of_stream streaming (Or.inr ⟨target, rfl⟩)

/-- A device that keeps taking something gets everything that was held
back. -/
theorem accepted_of_progress
    {session : Session} {old : Stream}
    (streaming : session.stream? = some old)
    (finite : old.device.refusal.kind ≠ .interrupted)
    (target : Option Target)
    (progress :
      ∀ transfer ∈ (session.answer (.setOutput target)).trace.transfers,
        transfer.Progresses) :
    accepted (session.answer (.setOutput target)).trace.transfers =
      old.held := by
  obtain ⟨left, rest, written, again, fault, ignored, first, second, transfers,
      split, splitAgain, _, _⟩ :=
    (ends_of_stream streaming target).attempts
  have early : ∀ transfer ∈ written, transfer.Progresses := by
    intro transfer member
    apply progress
    rw [transfers]
    simp [member]
  obtain ⟨succeeded, empty⟩ :=
    Stream.writeOut_of_progress finite first early
  rw [empty] at split splitAgain
  obtain ⟨nothing, _⟩ := List.append_eq_nil_iff.mp splitAgain
  rw [List.append_nil] at split
  rw [transfers, succeeded]
  simp [nothing, split, Transfer.data]

/-- A flush of a stream succeeds exactly if all that was held back reached the
device and the device's own flush succeeded. -/
theorem reply_flush_of_stream
    {session : Session} {old : Stream}
    (streaming : session.stream? = some old) :
    (session.answer .flush).reply = .nothing ↔
      accepted (session.answer .flush).trace.transfers = old.held ∧
        old.device.flush.2 = none := by
  cases flushed : old.flush with
  | mk after result =>
      obtain ⟨transfers, fault⟩ := result
      obtain ⟨_, split, outcome⟩ := Stream.flush_adds flushed
      have performed := perform_flush session
      rw [Channel.flush_of_stream streaming flushed] at performed
      obtain ⟨_, _, _, traced, replied⟩ :=
        next_withOutput performed (ofFault_ne_aborted _)
      have whole : after.held = [] ↔ accepted transfers = old.held := by
        rw [← split]
        exact List.self_eq_append_right.symm
      have quiet : Reply.ofFault fault = .nothing ↔ fault = none := by
        cases fault <;> simp [Reply.ofFault]
      rw [replied, traced, quiet, outcome, whole]
      simp

/-- What a replacement leaves and shows: the session before it, the new target,
the session after it, and the answer. -/
structure HandsOver
    (session : Session) (target : Option Target) (after : Session)
    (answer : Answer) : Prop where
  /-- The new target is there, untouched, and the caller sees no error. -/
  installed : after.hub.channel.target = target
  reply : answer.reply = .nothing
  ended : ∀ old, session.stream? = some old →
    Ends old session.maximum answer
  /-- A target that is no stream has no traffic. -/
  silent : session.stream? = none → answer.trace.transfers = []
  records :
    answer.trace.records =
      handoverRecords session.maximum
        (session.hub.channel.flush session.host.ports).2.2.2
  /-- Standard output and the files are left as one flush of the target before
  leaves them. -/
  ports :
    after.host.ports =
      (session.hub.channel.flush session.host.ports).2.1.watched
  screen : session.hub.channel.current = .screen →
    (session.perform (.setOutput target)).1.host.ports.screen.waiting = [] ∧
      answer.trace.records = []
  /-- A file that was the target is flushed once, and a record tells if that
  failed. -/
  file : ∀ name, session.hub.channel.current = .file name →
    after.host.ports.file name = (session.host.ports.file name).flush.1 ∧
      answer.trace.records =
        handoverRecords session.maximum
          (session.host.ports.file name).flush.2
  /-- No other file is touched, nor is the new target if it is one of them. -/
  untouched : ∀ name, session.hub.channel.current ≠ .file name →
    after.host.ports.file? name = session.host.ports.file? name
  /-- The old stream is not heard of again. -/
  forgotten : ∀ old later, session.stream? = some old →
    (∀ step ∈ .setOutput target :: later,
      step.ConcernsOutput ∧ step.Avoids old.name) →
      ∀ transfer ∈ traffic (after.run later), transfer.stream ≠ old.name

theorem handsOver (session : Session) (target : Option Target) :
    ∃ after,
      session.next (.setOutput target) = some after ∧
        HandsOver session target after
          (session.answer (.setOutput target)) := by
  obtain ⟨after, continues, channel, replied, traced⟩ :=
    step_setOutput session target
  have ports :
      after.host.ports =
        (session.hub.channel.flush session.host.ports).2.1.watched := by
    rw [eq_settle_of_next continues, perform_setOutput,
      ports_settle_withOutput, Channel.replace_eq]
  have records :
      (session.answer (.setOutput target)).trace.records =
        handoverRecords session.maximum
          (session.hub.channel.flush session.host.ports).2.2.2 := by
    rw [traced, Trace.records_upTo, Trace.records_writing,
      Trace.records_holding, Channel.records_replace]
    exact records_noted _ _
  refine ⟨after, continues, ?_⟩
  constructor
  · rw [channel]
  · exact replied
  · intro old streaming
    exact ends_of_stream streaming target
  · intro elsewhere
    exact silent_elsewhere elsewhere (Or.inr ⟨target, rfl⟩)
  · exact records
  · exact ports
  · intro here
    have flushed :
        session.hub.channel.flush session.host.ports =
          (session.hub.channel,
            { session.host.ports with
                screen := session.host.ports.screen.flush },
            [], none) := by
      rw [Channel.flush, here]
    rw [records, perform_setOutput, Channel.replace_eq, flushed]
    exact ⟨rfl, rfl⟩
  · intro name here
    obtain ⟨flushed, fault⟩ := Channel.file_flush here session.host.ports
    rw [records, ports, fault]
    exact ⟨flushed, rfl⟩
  · intro name elsewhere
    rw [ports]
    exact Channel.file?_flush_of_ne elsewhere session.host.ports
  · intro old later _ others
    have avoids : after.Avoids old.name :=
      avoids_of_installed channel (others _ List.mem_cons_self).2
    obtain ⟨_, _, _, silent⟩ :=
      avoids.run fun step member =>
        others step (List.mem_cons_of_mem _ member)
    exact silent

/-- Whatever the state, a replacement hands over.  If from then on the old
stream's device always takes something or is merely interrupted, it ends up
with every chunk that was printed to it.  And flushing succeeds exactly if all
that was held back was accepted and the device's own flush succeeded. -/
theorem replacement_hands_over
    (session : Session) (target : Option Target) :
    (∃ after,
      session.next (.setOutput target) = some after ∧
        HandsOver session target after
          (session.answer (.setOutput target))) ∧
      (∀ (name : String) (device : Device) (capacity : Option Nat)
        (during : List Step),
        device.refusal.kind ≠ .interrupted →
          (∀ step ∈ during, step.PrintsOrFlushes) →
          ∃ installed reached chunks,
            session.next
                (.setOutput
                  (some (.stream ⟨name, device, capacity, []⟩))) =
                some installed ∧
              installed.reach during = some reached ∧
              List.Forall₂
                (fun entry chunk => entry.1.Puts entry.2.reply chunk)
                (during.zip (installed.run during)) chunks ∧
              ((∀ transfer ∈
                  (reached.answer (.setOutput target)).trace.transfers,
                transfer.Progresses) →
                accepted
                    (traffic
                      (installed.run during ++
                        [reached.answer (.setOutput target)])) =
                  chunks.flatten)) ∧
      (∀ old, session.stream? = some old →
        ((session.answer .flush).reply = .nothing ↔
          accepted (session.answer .flush).trace.transfers = old.held ∧
            old.device.flush.2 = none)) ∧
      (session.hub.channel.current = .screen →
        (session.answer .flush).reply = .nothing) := by
  refine ⟨handsOver session target, ?_, ?_, ?_⟩
  · intro name device capacity during finite calm
    let first : Stream := ⟨name, device, capacity, []⟩
    obtain ⟨installed, installs, channel, _, _⟩ :=
      step_setOutput session (some (.stream first))
    have streaming : installed.stream? = some first := by
      rw [stream?, channel]
      rfl
    obtain ⟨reached, last, reaches, streamingThen, kept⟩ :=
      reach_kept streaming (fun _ => rfl) calm
    obtain ⟨chunks, each, whole⟩ := kept.chunks
    refine ⟨installed, reached, chunks, installs, reaches, each, ?_⟩
    intro progress
    have finiteThen : last.device.refusal.kind ≠ .interrupted := by
      rw [kept.refusal]
      exact finite
    have rest := accepted_of_progress streamingThen finiteThen target progress
    rw [kept.device, List.append_nil, List.append_assoc] at whole
    rw [traffic, List.flatMap_append, List.flatMap_singleton, accepted_append,
      rest]
    exact List.append_cancel_left whole
  · intro old streaming
    exact reply_flush_of_stream streaming
  · intro screen
    have unfailing :
        (session.hub.channel.flush session.host.ports).2.2.2 = none := by
      rw [Channel.flush, screen]
    rw [reply_answer, perform_flush, unfailing]
    rfl

/-- A device that is interrupted first gets the held text at the end. -/
theorem replacement_hands_over_interrupted :
    ∃ installed reached chunks,
      (fresh .own false "" (Build.current "" "")).next
          (.setOutput
            (some
              (.stream
                ⟨"log", { Device.boundless with script := [.interrupt] },
                  some 8, []⟩))) =
          some installed ∧
        installed.reach [.print (Message.text "hi")] = some reached ∧
        List.Forall₂
          (fun entry chunk => entry.1.Puts entry.2.reply chunk)
          ([Step.print (Message.text "hi")].zip
            (installed.run [.print (Message.text "hi")])) chunks ∧
        accepted
            (traffic
              (installed.run [.print (Message.text "hi")] ++
                [reached.answer (.setOutput none)])) =
          chunks.flatten := by
  have calm :
      ∀ step ∈ [Step.print (Message.text "hi")], step.PrintsOrFlushes := by
    intro step member
    rw [List.mem_singleton.mp member]
    rfl
  obtain ⟨_, complete, _, _⟩ :=
    replacement_hands_over (fresh .own false "" (Build.current "" "")) none
  obtain ⟨installed, reached, chunks, installs, reaches, each, whole⟩ :=
    complete "log" { Device.boundless with script := [.interrupt] } (some 8)
      [.print (Message.text "hi")] (by decide) calm
  refine ⟨installed, reached, chunks, installs, reaches, each, whole ?_⟩
  have streaming :
      reached.stream? =
        some
          ⟨"log", { Device.boundless with script := [.interrupt] }, some 8,
            bytes "hi"⟩ := by
    cases installs
    cases reaches
    rfl
  have interrupted :
      Device.attempt { Device.boundless with script := [.interrupt] }
          (bytes "hi") =
        (.boundless, .interrupted) := rfl
  have first :
      Stream.writeOut
          ⟨"log", { Device.boundless with script := [.interrupt] }, some 8,
            bytes "hi"⟩ =
        (⟨"log", { Device.boundless with content := bytes "hi" }, some 8, []⟩,
          [.refused "log" .interrupted, .wrote "log" (bytes "hi")], none) := by
    rw [Stream.writeOut, pour_of_interrupted (by decide) interrupted,
      pour_boundless _ _ (by decide)]
  have second :
      Stream.writeOut
          ⟨"log", { Device.boundless with content := bytes "hi" }, some 8,
            []⟩ =
        (⟨"log", { Device.boundless with content := bytes "hi" }, some 8, []⟩,
          [], none) :=
    Stream.writeOut_of_idle rfl
  rw [transfers_setOutput_of_stream streaming
      (Stream.flush_of_writeOut first),
    Stream.close_flushedUnless first, Stream.close_of_writeOut second]
  intro transfer member
  simp only [if_true, List.cons_append, List.nil_append, List.mem_cons,
    List.not_mem_nil, or_false] at member
  rcases member with rfl | rfl | rfl | rfl
  · rfl
  · exact (by decide : bytes "hi" ≠ [])
  · trivial
  · trivial

end Session

end SignalHub
