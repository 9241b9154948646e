import Mathlib.Data.List.Forall2
import SignalHub.Proofs.Output.Channel
import SignalHub.Proofs.Session.Reach

/-!
# Output over whole sessions

Prints, flushes and replacements in any order.  While a stream is the target it
gets one chunk for every print and nothing else, and no other stream gets
anything.
-/

namespace SignalHub

open Output Text

namespace Step

/-- The text that a message becomes when nothing bounds it. -/
def printed (message : Message) : Bytes :=
  bytes message.program.collect.buffer

/-- Prints whose formatting succeeds, and flushes. -/
def PrintsOrFlushes : Step → Prop
  | .print message => message.program.collect.succeeded = true
  | .flush => True
  | _ => False

/-- Prints whose formatting succeeds, flushes and replacements. -/
def ConcernsOutput (step : Step) : Prop :=
  step.PrintsOrFlushes ∨ ∃ target, step = .setOutput target

/-- What a step puts on the target: a print puts its whole text there if it
replies the number of bytes, and a proper beginning of it if it is refused; a
flush puts nothing. -/
def Puts (step : Step) (reply : Reply) (chunk : Bytes) : Prop :=
  match step with
  | .print message =>
      reply = .number (printed message).length ∧ chunk = printed message ∨
        (∃ fault, reply = .refused (.output fault)) ∧
          chunk <+: printed message ∧ chunk ≠ printed message
  | _ => chunk = []

end Step

/-- The traffic that answers show. -/
def traffic (answers : List Answer) : List Transfer :=
  answers.flatMap fun answer => answer.trace.transfers

namespace Session

/-- The stream that a session prints to, if it does. -/
def stream? (session : Session) : Option Stream :=
  session.hub.channel.stream?

/-- A session whose channel and ports an output step changed. -/
def withOutput (session : Session) (channel : Channel) (ports : Ports) :
    Session :=
  { session with
      host := { session.host.setChannel session.scope channel with ports } }

@[simp]
theorem channel_settle_withOutput
    (session : Session) (channel : Channel) (ports : Ports) :
    (session.withOutput channel ports).settle.hub.channel = channel := by
  obtain ⟨host, scope, maximum, build⟩ := session
  cases scope <;> rfl

end Session

/-- The ports once whoever watches standard output saw what was printed. -/
def Output.Ports.watched (ports : Ports) : Ports :=
  { ports with screen := ports.screen.flush }

namespace Session

theorem ports_settle_withOutput
    (session : Session) (channel : Channel) (ports : Ports) :
    (session.withOutput channel ports).settle.host.ports = ports.watched := by
  obtain ⟨host, scope, maximum, build⟩ := session
  cases scope <;> rfl

/-! ## One step -/

section Step

variable {session : Session}

theorem perform_print
    (session : Session) {message : Message}
    (succeeds : message.program.collect.succeeded = true) :
    session.perform (.print message) =
      (session.withOutput
          (session.hub.channel.print session.host.ports
            (Step.printed message)).1
          (session.hub.channel.print session.host.ports
            (Step.printed message)).2.1,
        Trace.reading session.scope
          (.formatted message.program.collect.taken message.announced ::
            Trace.holding (.channel session.scope)
              (session.hub.channel.print session.host.ports
                (Step.printed message)).2.2.1),
        .ofCount
          ((session.hub.channel.print session.host.ports
            (Step.printed message)).2.2.2.mapError .output)) := by
  simp only [perform, Host.printMessage, Host.printReading, succeeds, if_true]
  rfl

theorem perform_flush (session : Session) :
    session.perform .flush =
      (session.withOutput
          (session.hub.channel.flush session.host.ports).1
          (session.hub.channel.flush session.host.ports).2.1,
        Trace.reading session.scope
          (Trace.holding (.channel session.scope)
            (session.hub.channel.flush session.host.ports).2.2.1),
        .ofFault (session.hub.channel.flush session.host.ports).2.2.2) := rfl

theorem perform_setOutput (session : Session) (target : Option Target) :
    session.perform (.setOutput target) =
      (session.withOutput
          (session.hub.channel.replace session.host.ports target).1
          (session.hub.channel.replace session.host.ports target).2.1,
        Trace.writing session.scope
          (Trace.holding (.channel session.scope)
            (session.hub.channel.replace session.host.ports target).2.2),
        .nothing) := rfl

theorem ofCount_ne_aborted (result : Except CallFault Nat) :
    Reply.ofCount result ≠ .aborted := by
  cases result <;> exact Reply.noConfusion

theorem ofFault_ne_aborted (fault : Option Fault) :
    Reply.ofFault fault ≠ .aborted := by
  cases fault <;> exact Reply.noConfusion

/-- An output step goes on with the channel that it leaves. -/
theorem next_withOutput
    {step : Step} {channel : Channel} {ports : Ports} {trace : Trace}
    {reply : Reply}
    (performed :
      session.perform step = (session.withOutput channel ports, trace, reply))
    (continues : reply ≠ .aborted) :
    ∃ after,
      session.next step = some after ∧
        after.hub.channel = channel ∧
        (session.answer step).trace = trace.upTo session.maximum ∧
        (session.answer step).reply = reply := by
  refine ⟨_, next_of_reply performed continues,
    channel_settle_withOutput session channel ports, ?_, ?_⟩
  · rw [trace_answer, performed]
    rfl
  · rw [reply_answer, performed]

variable {stream : Stream} {step : Step}

/-- The current stream gets the chunk of the step. -/
theorem step_of_stream
    (streaming : session.stream? = some stream)
    (calm : step.PrintsOrFlushes) :
    ∃ after next chunk,
      session.next step = some after ∧
        after.stream? = some next ∧
        stream.Adds next (session.answer step).trace.transfers chunk ∧
        step.Puts (session.answer step).reply chunk := by
  cases step with
  | print message =>
      cases outcome : stream.print (Step.printed message) with
      | mk next result =>
          obtain ⟨transfers, fault⟩ := result
          obtain ⟨chunk, adds, beginning, whole⟩ := Stream.print_adds outcome
          have performed := perform_print session calm
          rw [Channel.print_of_stream streaming outcome] at performed
          obtain ⟨after, continues, channel, traced, replied⟩ :=
            next_withOutput performed (ofCount_ne_aborted _)
          refine ⟨after, next, chunk, continues, ?_, ?_, ?_⟩
          · rw [stream?, channel]
            rfl
          · rw [traced]
            simpa using adds
          · rw [replied]
            cases fault with
            | none => exact Or.inl ⟨rfl, whole.mp rfl⟩
            | some cause =>
                refine Or.inr ⟨⟨cause, rfl⟩, beginning, ?_⟩
                intro same
                cases whole.mpr same
  | flush =>
      cases outcome : stream.flush with
      | mk next result =>
          obtain ⟨transfers, fault⟩ := result
          obtain ⟨adds, _, _⟩ := Stream.flush_adds outcome
          have performed := perform_flush session
          rw [Channel.flush_of_stream streaming outcome] at performed
          obtain ⟨after, continues, channel, traced, _⟩ :=
            next_withOutput performed (ofFault_ne_aborted _)
          refine ⟨after, next, [], continues, ?_, ?_, rfl⟩
          · rw [stream?, channel]
            rfl
          · rw [traced]
            simpa using adds
  | _ => exact absurd calm id

/-- Where no stream is the target, a step has no traffic and makes none
one. -/
theorem step_elsewhere
    (elsewhere : session.stream? = none) (calm : step.PrintsOrFlushes) :
    ∃ after,
      session.next step = some after ∧
        after.stream? = none ∧
        (session.answer step).trace.transfers = [] := by
  cases step with
  | print message =>
      obtain ⟨still, silent⟩ :=
        Channel.print_elsewhere elsewhere session.host.ports
          (Step.printed message)
      obtain ⟨after, continues, channel, traced, _⟩ :=
        next_withOutput (perform_print session calm) (ofCount_ne_aborted _)
      refine ⟨after, continues, ?_, ?_⟩
      · rw [stream?, channel]
        exact still
      · rw [traced]
        simpa using silent
  | flush =>
      obtain ⟨still, silent⟩ :=
        Channel.flush_elsewhere elsewhere session.host.ports
      obtain ⟨after, continues, channel, traced, _⟩ :=
        next_withOutput (perform_flush session) (ofFault_ne_aborted _)
      refine ⟨after, continues, ?_, ?_⟩
      · rw [stream?, channel]
        exact still
      · rw [traced]
        simpa using silent
  | _ => exact absurd calm id

/-- A replacement installs the new target as it is. -/
theorem step_setOutput (session : Session) (target : Option Target) :
    ∃ after,
      session.next (.setOutput target) = some after ∧
        after.hub.channel = ⟨target⟩ ∧
        (session.answer (.setOutput target)).reply = .nothing ∧
        (session.answer (.setOutput target)).trace =
          (Trace.writing session.scope
            (Trace.holding (.channel session.scope)
              (session.hub.channel.replace session.host.ports
                target).2.2)).upTo session.maximum := by
  obtain ⟨after, continues, channel, traced, replied⟩ :=
    next_withOutput (perform_setOutput session target)
      (by exact Reply.noConfusion)
  exact ⟨after, continues, channel, replied, traced⟩

end Step

/-! ## Runs on one stream -/

/-- What steps put on the stream that was the target all the while: its first
and its last state, and the answers of the steps. -/
structure Kept
    (first last : Stream) (steps : List Step) (answers : List Answer) :
    Prop where
  /-- One chunk for each step, in order, and nothing else. -/
  chunks : ∃ chunks,
    List.Forall₂ (fun entry chunk => entry.1.Puts entry.2.reply chunk)
        (steps.zip answers) chunks ∧
      last.device.content ++ last.held =
        first.device.content ++ first.held ++ chunks.flatten
  /-- What the device took is what the answers show. -/
  device :
    last.device.content = first.device.content ++ accepted (traffic answers)
  own : ∀ transfer ∈ traffic answers, transfer.stream = first.name
  name : last.name = first.name
  capacity : last.capacity = first.capacity
  bare : first.capacity = none → last.held = []
  flushFault : last.device.flushFault = first.device.flushFault
  refusal : last.device.refusal = first.device.refusal
  /-- As many answers of its script are gone as flushes are shown. -/
  flushes :
    last.device.flushes =
      first.device.flushes.drop (flushCount (traffic answers))

section Runs

variable {session : Session} {stream : Stream} {steps : List Step}

/-- The induction is on the steps; each adds its chunk to the stream that the
ones before left. -/
theorem reach_of_stream
    (streaming : session.stream? = some stream)
    (calm : ∀ step ∈ steps, step.PrintsOrFlushes) :
    ∃ reached last chunks,
      session.reach steps = some reached ∧
        reached.stream? = some last ∧
        stream.Adds last (traffic (session.run steps)) chunks.flatten ∧
        List.Forall₂ (fun entry chunk => entry.1.Puts entry.2.reply chunk)
          (steps.zip (session.run steps)) chunks := by
  induction steps generalizing session stream with
  | nil =>
      exact
        ⟨session, stream, [], rfl, streaming, Stream.Adds.refl stream,
          List.Forall₂.nil⟩
  | cons step rest inductionHypothesis =>
      obtain ⟨after, next, chunk, continues, streamingAfter, adds, puts⟩ :=
        step_of_stream streaming (calm step List.mem_cons_self)
      obtain ⟨reached, last, chunks, arrives, streamingLast, later, each⟩ :=
        inductionHypothesis streamingAfter
          (fun other member => calm other (List.mem_cons_of_mem step member))
      refine ⟨reached, last, chunk :: chunks, ?_, streamingLast, ?_, ?_⟩
      · rw [reach, continues]
        exact arrives
      · rw [run_cons_of_next continues]
        exact adds.trans later
      · rw [run_cons_of_next continues]
        exact List.Forall₂.cons puts each

theorem reach_kept
    (streaming : session.stream? = some stream) (sound : stream.Sound)
    (calm : ∀ step ∈ steps, step.PrintsOrFlushes) :
    ∃ reached last,
      session.reach steps = some reached ∧
        reached.stream? = some last ∧
        Kept stream last steps (session.run steps) := by
  obtain ⟨reached, last, chunks, arrives, streamingLast, adds, each⟩ :=
    reach_of_stream streaming calm
  refine ⟨reached, last, arrives, streamingLast, ?_⟩
  constructor
  · exact ⟨chunks, each, adds.content sound⟩
  · exact adds.device
  · exact adds.own
  · exact adds.name
  · exact adds.capacity
  · intro bare
    exact adds.sound sound (adds.capacity.trans bare)
  · exact adds.flushFault
  · exact adds.refusal
  · exact adds.flushes

end Runs

/-! ## Streams that are not the target -/

/-- The target is not a stream of this name. -/
def Avoids (session : Session) (name : String) : Prop :=
  ∀ stream, session.stream? = some stream → stream.name ≠ name

end Session

/-- The step does not make a stream of this name the target. -/
def Step.Avoids (step : Step) (name : String) : Prop :=
  ∀ target, step = .setOutput target →
    ∀ stream, Channel.stream? ⟨target⟩ = some stream → stream.name ≠ name

namespace Session

section Avoiding

variable {session : Session} {name : String}

theorem avoids_fresh
    (scope : Scope) (paint : Bool) (clock : String) (build : Build)
    (name : String) :
    (fresh scope paint clock build).Avoids name := by
  intro stream streaming
  cases scope <;> cases streaming

theorem transfers_setOutput_of_stream
    {stream after : Stream} {transfers : List Transfer}
    {fault : Option Fault}
    (streaming : session.stream? = some stream)
    (flushed : stream.flush = (after, transfers, fault))
    (target : Option Target) :
    (session.answer (.setOutput target)).trace.transfers =
      transfers ++ after.close.2 := by
  obtain ⟨_, _, _, _, traced⟩ := step_setOutput session target
  rw [traced, Channel.replace_of_stream streaming flushed]
  simp

theorem avoids_of_installed
    {target : Option Target} (installed : session.hub.channel = ⟨target⟩)
    (others : (Step.setOutput target).Avoids name) : session.Avoids name := by
  intro stream streaming
  rw [stream?, installed] at streaming
  exact others target rfl stream streaming

/-- The traffic of a step is that of the stream that was the target before
it. -/
theorem own_of_stream
    {stream : Stream} (streaming : session.stream? = some stream)
    {step : Step} (calm : step.ConcernsOutput) :
    ∀ transfer ∈ (session.answer step).trace.transfers,
      transfer.stream = stream.name := by
  rcases calm with calm | ⟨target, rfl⟩
  · obtain ⟨_, _, _, _, _, adds, _⟩ := step_of_stream streaming calm
    exact adds.own
  · cases flushed : stream.flush with
    | mk last result =>
        obtain ⟨transfers, fault⟩ := result
        rw [transfers_setOutput_of_stream streaming flushed]
        exact (Stream.end_splits flushed).2

theorem silent_elsewhere
    (elsewhere : session.stream? = none)
    {step : Step} (calm : step.ConcernsOutput) :
    (session.answer step).trace.transfers = [] := by
  rcases calm with calm | ⟨target, rfl⟩
  · obtain ⟨_, _, _, silent⟩ := step_elsewhere elsewhere calm
    exact silent
  · have silent :=
      (Channel.replace_elsewhere elsewhere session.host.ports target).2
    obtain ⟨_, _, _, _, traced⟩ := step_setOutput session target
    rw [traced]
    simp [silent]

theorem Avoids.transfers
    (avoids : session.Avoids name) {step : Step}
    (calm : step.ConcernsOutput) :
    ∀ transfer ∈ (session.answer step).trace.transfers,
      transfer.stream ≠ name := by
  cases streaming : session.stream? with
  | some stream =>
      intro transfer member
      rw [own_of_stream streaming calm transfer member]
      exact avoids stream streaming
  | none =>
      rw [silent_elsewhere streaming calm]
      exact List.forall_mem_nil _

theorem Avoids.next
    (avoids : session.Avoids name) {step : Step}
    (calm : step.ConcernsOutput) (others : step.Avoids name) :
    ∃ after, session.next step = some after ∧ after.Avoids name := by
  rcases calm with calm | ⟨target, rfl⟩
  · cases streaming : session.stream? with
    | some stream =>
        obtain ⟨after, last, _, continues, streamingAfter, adds, _⟩ :=
          step_of_stream streaming calm
        refine ⟨after, continues, ?_⟩
        intro other streamingOther
        rw [streamingAfter] at streamingOther
        cases streamingOther
        rw [adds.name]
        exact avoids stream streaming
    | none =>
        obtain ⟨after, continues, still, _⟩ := step_elsewhere streaming calm
        refine ⟨after, continues, ?_⟩
        intro other streamingOther
        rw [still] at streamingOther
        cases streamingOther
  · obtain ⟨after, continues, installed, _, _⟩ :=
      step_setOutput session target
    exact ⟨after, continues, avoids_of_installed installed others⟩

theorem Avoids.run
    (avoids : session.Avoids name) {steps : List Step}
    (others : ∀ step ∈ steps, step.ConcernsOutput ∧ step.Avoids name) :
    ∃ reached,
      session.reach steps = some reached ∧
        reached.Avoids name ∧
        ∀ transfer ∈ traffic (session.run steps),
          transfer.stream ≠ name := by
  induction steps generalizing session with
  | nil => exact ⟨session, rfl, avoids, List.forall_mem_nil _⟩
  | cons step rest inductionHypothesis =>
      obtain ⟨calm, stepAvoids⟩ := others step List.mem_cons_self
      have here := avoids.transfers calm
      obtain ⟨after, continues, avoidsAfter⟩ := avoids.next calm stepAvoids
      obtain ⟨reached, arrives, avoidsLast, later⟩ :=
        inductionHypothesis avoidsAfter
          (fun other member =>
            others other (List.mem_cons_of_mem step member))
      refine ⟨reached, ?_, avoidsLast, ?_⟩
      · rw [reach, continues]
        exact arrives
      · rw [run_cons_of_next continues]
        intro transfer member
        rcases List.mem_append.mp member with first | rest
        · exact here transfer first
        · exact later transfer rest

end Avoiding

end Session

end SignalHub
