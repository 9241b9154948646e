import SignalHub.Proofs.Carrying
import SignalHub.Proofs.Session.Output

/-!
# Prints over whole sessions

Whatever the steps are: as long as none of them replaces a hub's output, the
target of the hub gets what the steps print on it, themselves or through a
function of the host that acts from inside.
-/

namespace SignalHub

open Output Text

namespace Step

/-- The hub whose output a step replaces, if it does. -/
def replaced? (within : Scope) : Step → Option Scope
  | .setOutput _ => some within
  | .foreign (.setStream _) => some .shared
  | _ => none

/-- The text that a step itself prints, if it does, and the hub. -/
def text? (within : Scope) : Step → Option (Scope × Bytes)
  | .print message =>
      if message.program.collect.succeeded then some (within, printed message)
      else none
  | .foreign (.print message) => some (.shared, bytes (incoming message))
  | _ => none

end Step

/-- Whether a print is answered by its number of bytes. -/
def Reply.counts : Reply → Bool
  | .number count => 0 ≤ count
  | _ => false

/-- The prints on a hub during a step, and whether they succeeded: those from
inside, and the step's own. -/
def printsOf
    (within scope : Scope) (step : Step) (trace : Trace) (reply : Reply) :
    List (Bytes × Bool) :=
  trace.printsOn scope ++
    match step.text? within with
    | some (other, text) => if other = scope then [(text, reply.counts)] else []
    | none => []

namespace Session

/-! ## One step -/

section Step

variable {scope : Scope} {alone : Prop} {host after : Host} {trace : Trace}

/-- A step that prints nothing. -/
theorem carries_of_silent
    (silent : trace.prints = [])
    (channel : (after.hub scope).channel = (host.hub scope).channel)
    (files : alone → after.ports.files = host.ports.files) :
    Host.Carries scope alone host after (trace.printsOn scope ++ []) := by
  rw [Trace.printsOn_of_silent silent]
  exact Host.Carries.of_same channel files

theorem carries_emit
    (only : alone → scope = .shared) (host : Host) (within : Scope)
    (category : String) (origin : Origin) (message : Message) :
    Host.Carries scope alone host
      (host.emit within category origin message).1
      (Trace.printsOn scope (host.emit within category origin message).2 ++
        []) := by
  rw [List.append_nil]
  exact
    ((Host.respected_acted within only).emit (Or.inl rfl) host category
      origin message).carries

/-- A registration of anything but the output. -/
theorem carries_registered
    (within : Scope) (hub : Hub)
    (registers : hub.channel = (host.hub within).channel)
    (same : after.hub scope = (host.setHub within hub).hub scope)
    (files : after.ports.files = host.ports.files) :
    Host.Carries scope alone host after
      (Trace.printsOn scope (Trace.writing within []) ++ []) := by
  apply carries_of_silent
  · rw [Trace.prints_writing]
    rfl
  · rw [same]
    by_cases here : scope = within
    · rw [here, Host.hub_setHub, registers]
    · rw [Host.hub_setHub_of_ne host here]
  · exact fun _ => files

theorem carries_bySeverity
    (session : Session) (level : Int) (call : Severity → Host × Trace)
    (calls : ∀ severity,
      Host.Carries scope alone session.host (call severity).1
        (Trace.printsOn scope (call severity).2 ++ [])) :
    Host.Carries scope alone session.host
      (session.bySeverity level call).1.host
      (Trace.printsOn scope (session.bySeverity level call).2.1 ++ []) := by
  rw [bySeverity]
  cases Severity.ofIndex level with
  | error fault => exact carries_of_silent rfl rfl fun _ => rfl
  | ok severity => exact calls severity

theorem prints_replaceOutput
    (host : Host) (within : Scope) (target : Option Target) :
    Trace.prints (host.replaceOutput within target).2 = [] := by
  have silent : ∀ fault, Trace.prints (Channel.noted fault) = [] := by
    intro fault
    cases fault <;> rfl
  rw [Host.replaceOutput, Trace.prints_holding, Channel.replace_eq,
    Trace.prints_append, Trace.prints_append, silent,
    Trace.prints_of_output (Channel.output_flush _ _),
    Trace.prints_of_output (Channel.output_dismiss _)]
  rfl

/-- A new output of the other hub. -/
theorem carries_setOutput
    {within : Scope} (elsewhere : within ≠ scope)
    (only : alone → within = scope) (host : Host)
    (target : Option Target) :
    Host.Carries scope alone host (host.setOutput within target).1
      (Trace.printsOn scope (host.setOutput within target).2 ++ []) := by
  have silent : Trace.prints (host.setOutput within target).2 = [] := by
    rw [Host.setOutput, Trace.prints_writing, prints_replaceOutput]
  rw [Trace.printsOn_of_silent silent]
  exact
    Host.Carries.replaceOutput_elsewhere elsewhere host target only

theorem prints_printBytes (host : Host) (within : Scope) (data : Bytes) :
    Trace.prints (host.printBytes within data).2.1 = [] := by
  rw [Host.printBytes, Trace.prints_holding,
    Trace.prints_of_output (Channel.output_print _ _ _)]

theorem printMessage_of_succeeding
    {message : Message} (succeeds : message.program.collect.succeeded = true)
    (host : Host) (within : Scope) :
    host.printMessage within message =
      ((host.printBytes within (Step.printed message)).1,
        Trace.reading within
          (.formatted message.program.collect.taken message.announced ::
            (host.printBytes within (Step.printed message)).2.1),
        (host.printBytes within (Step.printed message)).2.2.mapError
          .output) := by
  simp only [Host.printMessage, Host.printReading, succeeds, if_true]
  rfl

/-- A message printed as a step of its own. -/
theorem carries_printMessage
    {within : Scope} (only : alone → within = .shared ∧ scope = .shared)
    (host : Host) {message : Message}
    (succeeds : message.program.collect.succeeded = true) :
    Trace.prints (host.printMessage within message).2.1 = [] ∧
      (host.printMessage within message).2.2 =
        (host.printBytes within (Step.printed message)).2.2.mapError
          .output ∧
      Host.Carries scope alone host (host.printMessage within message).1
        (if within = scope then
          [(Step.printed message,
            (host.printBytes within (Step.printed message)).2.2.isOk)]
        else []) := by
  rw [printMessage_of_succeeding succeeds]
  refine ⟨?_, rfl, Host.Carries.printBytes_within only host _⟩
  rw [Trace.prints_reading]
  exact prints_printBytes host within _

/-- A step that prints a text of its own and nothing from inside. -/
theorem carries_of_text
    {step : Step} {within printing : Scope} {data : Bytes} {reply : Reply}
    {result : Except Fault Nat} (silent : trace.prints = [])
    (text : step.text? within = some (printing, data))
    (counts : reply.counts = result.isOk)
    (carries :
      Host.Carries scope alone host after
        (if printing = scope then [(data, result.isOk)] else [])) :
    Host.Carries scope alone host after
      (printsOf within scope step trace reply) := by
  rw [printsOf, Trace.printsOn_of_silent silent, text, counts]
  exact carries

theorem counts_ofCount (result : Except CallFault Nat) :
    (Reply.ofCount result).counts = result.isOk := by
  cases result with
  | ok count => exact decide_eq_true (Int.natCast_nonneg count)
  | error fault => rfl

theorem isOk_mapError (result : Except Fault Nat) :
    (result.mapError CallFault.output).isOk = result.isOk := by
  cases result <;> rfl

theorem printMessage_of_failing
    {message : Message} (fails : message.program.collect.succeeded = false)
    (host : Host) (within : Scope) :
    host.printMessage within message =
      (host,
        Trace.reading within
          [.formatted message.program.collect.taken message.announced],
        .error .panic) := by
  simp only [Host.printMessage, Host.printReading, fails,
    Bool.false_eq_true, if_false]

theorem collect_text (content : String) :
    (Message.text content).program.collect = ⟨content, 1, true⟩ := by
  simp [Message.text, Formatter.text, Formatter.collect, Formatter.run]

/-- The formatting of a text cannot fail. -/
theorem printReading_text (host : Host) (within : Scope) (text : String) :
    host.printReading within (Message.text text) =
      ((host.printBytes within (bytes text)).1,
        .formatted 1 false :: (host.printBytes within (bytes text)).2.1,
        (host.printBytes within (bytes text)).2.2.mapError .output) := by
  have formatted := collect_text text
  simp only [Host.printReading, formatted, if_true]
  rfl

/-- A foreign print reports its bytes, or a negative number. -/
theorem carries_foreign_print
    (onShared : alone → scope = .shared) (within : Scope) (host : Host)
    (message : Option Bytes) :
    Host.Carries scope alone host (Foreign.print host message).1
      (printsOf within scope (.foreign (.print message))
        (Foreign.print host message).2.1
        (.number (Foreign.print host message).2.2)) := by
  have collected := collect_text (incoming message)
  have same : Step.printed (Message.text (incoming message)) =
      bytes (incoming message) := by
    rw [Step.printed, collected]
  obtain ⟨silent, result, carries⟩ :=
    carries_printMessage (fun byItself => ⟨rfl, onShared byItself⟩) host
      (congrArg Formatted.succeeded collected)
  rw [same] at result carries
  rw [Host.printMessage, Trace.prints_reading] at silent
  rw [Host.printMessage] at result carries
  rw [Foreign.print]
  cases printed : host.printReading .shared
      (Message.text (incoming message)) with
  | mk after answer =>
      obtain ⟨trace, outcome⟩ := answer
      rw [printed] at silent result carries
      cases outcome with
      | ok count =>
          apply carries_of_text _ rfl _ carries
          · rw [Trace.prints_reading, silent]
          · rw [← isOk_mapError, ← result]
            exact
              decide_eq_true
                (Int.natCast_nonneg (min count Foreign.printMaximum))
      | error fault =>
          apply carries_of_text _ rfl _ carries
          · rw [Trace.prints_reading, Trace.prints_append, silent]
            rfl
          · rw [← isOk_mapError, ← result]
            rfl

theorem carries_foreign
    (onShared : alone → scope = .shared) (within : Scope) (host : Host)
    (build : Build) {call : ForeignCall}
    (keeps : (Step.foreign call).replaced? within ≠ some scope)
    (alive : (host.answer build call).2.2 ≠ .aborted) :
    Host.Carries scope alone host (host.answer build call).1
      (printsOf within scope (.foreign call) (host.answer build call).2.1
        (host.answer build call).2.2) := by
  cases call with
  | setSink present script =>
      apply
        carries_registered .shared
          { host.shared with
              sink := if present then some .foreign else none } rfl
      · cases scope <;> rfl
      · rfl
  | setFilter present acceptance =>
      apply
        carries_registered .shared
          { host.shared with
              filter := if present then some .foreign else none } rfl
      · cases scope <;> rfl
      · rfl
  | setStatusPrinter present actions =>
      exact
        carries_registered .shared
          { host.shared with
              statusPrinter :=
                if present then some ⟨.foreign, actions⟩ else none }
          rfl rfl rfl
  | emit category file function line message =>
      exact carries_emit onShared _ _ _ _ _
  | emitBySeverity level file function line message =>
      rw [Host.answer, Foreign.emitBySeverity]
      cases Severity.ofIndex level with
      | error fault => exact carries_of_silent rfl rfl fun _ => rfl
      | ok severity => exact carries_emit onShared _ _ _ _ _
  | emitAssertion file function line message =>
      exact carries_emit onShared _ _ _ _ _
  | emitSystemFault level message file function line code =>
      rw [Host.answer, Foreign.emitSystemFault]
      cases Severity.ofIndex level with
      | error fault => exact carries_of_silent rfl rfl fun _ => rfl
      | ok severity => exact carries_emit onShared _ _ _ _ _
  | setStream stream =>
      have elsewhere : Scope.shared ≠ scope := by
        intro same
        exact keeps (congrArg some same)
      have only : alone → Scope.shared = scope := by
        intro byItself
        exact (onShared byItself).symm
      cases stream with
      | none => exact carries_setOutput elsewhere only host none
      | some opened =>
          have opens : ∀ ports,
              Host.Carries scope alone host { host with ports } [] := by
            intro ports
            apply Host.Carries.of_same
            · rw [Host.hub_withPorts]
            · intro byItself
              exact absurd (only byItself) elsewhere
          exact
            (opens _).trans
              (carries_setOutput elsewhere only { host with ports := _ }
                (some (.file opened.1)))
  | print message => exact carries_foreign_print onShared within host message
  | fatal message => exact absurd rfl alive
  | _ => exact carries_of_silent rfl rfl fun _ => rfl

variable (session : Session)

theorem carries_perform
    {step : Step} (keeps : step.replaced? session.scope ≠ some scope)
    (alive : (session.perform step).2.2 ≠ .aborted)
    (only : alone → session.scope = .shared ∧ scope = .shared) :
    Host.Carries scope alone session.host (session.perform step).1.host
      (printsOf session.scope scope step (session.perform step).2.1
        (session.perform step).2.2) := by
  have onShared : alone → scope = .shared := fun byItself => (only byItself).2
  cases step with
  | setSink sink script =>
      apply carries_registered session.scope { session.hub with sink } rfl
      · exact Host.hub_withScript _ _ scope
      · exact congrArg Ports.files (session.host.ports_setHub _ _)
  | setFilter filter acceptance =>
      apply carries_registered session.scope { session.hub with filter } rfl
      · exact Host.hub_withAcceptance _ _ scope
      · exact congrArg Ports.files (session.host.ports_setHub _ _)
  | setOutput target =>
      apply carries_setOutput
      · intro same
        exact keeps (congrArg some same)
      · intro byItself
        obtain ⟨here, there⟩ := only byItself
        exact here.trans there.symm
  | setStatusPrinter actions =>
      apply
        carries_registered session.scope
          { session.hub with
              statusPrinter :=
                actions.map fun actions => ⟨.native, actions⟩ } rfl rfl
      exact congrArg Ports.files (session.host.ports_setHub _ _)
  | wants category =>
      apply carries_of_silent _ rfl fun _ => rfl
      rw [perform, Trace.prints_reading]
      exact
        Trace.prints_of_conveyance
          (Trace.conveyance_of_asking
            (session.host.asking_gate session.scope category).2)
  | emit category origin message => exact carries_emit onShared _ _ _ _ _
  | emitBySeverity level origin message =>
      apply carries_bySeverity
      intro severity
      exact carries_emit onShared _ _ _ _ _
  | emitAssertion origin text => exact carries_emit onShared _ _ _ _ _
  | emitSystemFault level text code origin =>
      apply carries_bySeverity
      intro severity
      exact carries_emit onShared _ _ _ _ _
  | print message =>
      by_cases succeeds : message.program.collect.succeeded = true
      · have text :
            (Step.print message).text? session.scope =
              some (session.scope, Step.printed message) :=
          if_pos succeeds
        obtain ⟨silent, result, carries⟩ :=
          carries_printMessage only session.host succeeds
        apply carries_of_text silent text _ carries
        rw [← isOk_mapError, ← result]
        exact counts_ofCount _
      · have text : (Step.print message).text? session.scope = none :=
          if_neg succeeds
        have refused :=
          printMessage_of_failing (Bool.eq_false_iff.mpr succeeds)
            session.host session.scope
        rw [printsOf, text, perform, refused]
        apply carries_of_silent _ rfl fun _ => rfl
        rw [Trace.prints_reading]
        rfl
  | flush =>
      have silent :
          Trace.prints (session.host.flushOutput session.scope).2.1 = [] := by
        rw [Host.flushOutput, Trace.prints_holding]
        exact Trace.prints_of_output (Channel.output_flush _ _)
      have flushes :=
        Host.Carries.flushOutput_within only session.host
      have quiet :
          Trace.prints
              (Trace.reading session.scope
                (session.host.flushOutput session.scope).2.1) = [] := by
        rw [Trace.prints_reading]
        exact silent
      rw [printsOf, perform]
      simp only [Trace.printsOn_of_silent quiet]
      exact flushes
  | poll =>
      obtain ⟨channel, _, ports⟩ :=
        session.host.pollBuffer_frame session.scope scope
      apply carries_of_silent _ channel fun _ => congrArg Ports.files ports
      rw [perform, Trace.prints_reading]
      exact
        Trace.prints_of_conveyance
          (session.host.conveyance_pollBuffer session.scope)
  | fatal origin message =>
      by_cases succeeds : message.program.collect.succeeded = true
      · have aborted :
            (session.perform (.fatal origin message)).2.2 = .aborted := by
          rw [perform, Host.fatalMessage]
          simp only [if_pos succeeds]
        exact absurd aborted alive
      · rw [perform, Host.fatalMessage]
        simp only [if_neg succeeds]
        exact carries_of_silent rfl rfl fun _ => rfl
  | foreign call =>
      exact
        carries_foreign onShared session.scope session.host session.build
          keeps alive
  | _ => exact carries_of_silent rfl rfl fun _ => rfl

theorem scope_perform (step : Step) :
    (session.perform step).1.scope = session.scope := by
  cases step with
  | emitBySeverity level origin message =>
      rw [perform, bySeverity]
      cases Severity.ofIndex level <;> rfl
  | emitSystemFault level text code origin =>
      rw [perform, bySeverity]
      cases Severity.ofIndex level <;> rfl
  | _ => rfl

end Step

section Next

variable {scope : Scope} {alone : Prop} {session after reached : Session}
  {step : Step}

theorem scope_next (continues : session.next step = some after) :
    after.scope = session.scope := by
  rw [eq_settle_of_next continues]
  exact scope_perform session step

theorem scope_reach
    {steps : List Step} (arrives : session.reach steps = some reached) :
    reached.scope = session.scope := by
  induction steps generalizing session with
  | nil =>
      cases arrives
      rfl
  | cons step rest inductionHypothesis =>
      rw [reach] at arrives
      obtain ⟨after, continues, arrives⟩ := Option.bind_eq_some_iff.mp arrives
      exact (inductionHypothesis arrives).trans (scope_next continues)

/-- Between two steps only the screen is settled. -/
theorem host_next
    (continues : session.next step = some after) (within : Scope) :
    (after.host.hub within).channel =
        ((session.perform step).1.host.hub within).channel ∧
      after.host.ports.files = (session.perform step).1.host.ports.files := by
  rw [eq_settle_of_next continues]
  exact ⟨congrArg Hub.channel (Host.hub_withPorts _ _ within), rfl⟩

/-- A step that goes on. -/
theorem carries_next
    (keeps : step.replaced? session.scope ≠ some scope)
    (continues : session.next step = some after)
    (only : alone → session.scope = .shared ∧ scope = .shared) :
    after.scope = session.scope ∧
      Host.Carries scope alone session.host after.host
        (printsOf session.scope scope step (session.answer step).trace
          (session.answer step).reply) := by
  have alive : (session.perform step).2.2 ≠ .aborted := by
    intro aborted
    rw [next, aborted] at continues
    cases continues
  have carries := carries_perform session keeps alive only
  have quiet :
      Host.Carries scope alone (session.perform step).1.host after.host [] := by
    obtain ⟨channel, files⟩ := host_next continues scope
    exact Host.Carries.of_same channel fun _ => files
  have prints :
      Trace.printsOn scope (session.answer step).trace =
        Trace.printsOn scope (session.perform step).2.1 := by
    rw [trace_answer]
    cases scope with
    | own => rfl
    | shared => simp [Trace.printsOn]
  refine ⟨scope_next continues, ?_⟩
  have whole := carries.trans quiet
  rw [List.append_nil] at whole
  rw [printsOf, prints, reply_answer]
  exact whole

end Next

/-! ## Runs -/

/-- The prints on a hub during steps. -/
def printsDuring
    (within scope : Scope) (steps : List Step) (answers : List Answer) :
    List (Bytes × Bool) :=
  (steps.zip answers).flatMap fun entry =>
    printsOf within scope entry.1 entry.2.trace entry.2.reply

theorem carries_reach
    {scope : Scope} {alone : Prop} {session reached : Session}
    {steps : List Step} (arrives : session.reach steps = some reached)
    (keeps : ∀ step ∈ steps, step.replaced? session.scope ≠ some scope)
    (only : alone → session.scope = .shared ∧ scope = .shared) :
    reached.scope = session.scope ∧
      Host.Carries scope alone session.host reached.host
        (printsDuring session.scope scope steps (session.run steps)) := by
  induction steps generalizing session with
  | nil =>
      cases arrives
      exact ⟨rfl, Host.Carries.of_same rfl fun _ => rfl⟩
  | cons step rest inductionHypothesis =>
      rw [reach] at arrives
      obtain ⟨after, continues, arrives⟩ := Option.bind_eq_some_iff.mp arrives
      -- The scope stays, so the rest of the steps replaces nothing either.
      obtain ⟨sameScope, carries⟩ :=
        carries_next (keeps step List.mem_cons_self) continues only
      obtain ⟨sameThen, carriesThen⟩ :=
        inductionHypothesis arrives
          (by
            intro other member
            rw [sameScope]
            exact keeps other (List.mem_cons_of_mem step member))
          (by
            rw [sameScope]
            exact only)
      rw [sameScope] at sameThen carriesThen
      rw [run_cons_of_next continues]
      exact ⟨sameThen, carries.trans carriesThen⟩

end Session

end SignalHub
