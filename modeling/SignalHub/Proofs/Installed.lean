import SignalHub.Proofs.Acting
import SignalHub.Proofs.Fatal

/-!
# The target that a print would install

A hub without a target prints to standard output, and its first print installs
that.  Whatever is done to such a hub goes as if standard output were installed
already; what a print would install is the same before and after.
-/

namespace SignalHub

open Output Text

namespace Output.Channel

/-- The channel once its current target is installed. -/
def installed (channel : Channel) : Channel :=
  ⟨some channel.current⟩

variable (channel : Channel) (ports : Ports)

@[simp]
theorem current_installed : channel.installed.current = channel.current := rfl

@[simp]
theorem installed_installed : channel.installed.installed = channel.installed :=
  rfl

theorem print_installed (data : Bytes) :
    channel.installed.print ports data = channel.print ports data := rfl

/-- A print installs the target that it is put on. -/
theorem installed_print (data : Bytes) :
    (channel.print ports data).1.installed = (channel.print ports data).1 := by
  rw [print]
  cases channel.current <;> rfl

theorem flush_installed :
    channel.installed.flush ports =
      ((channel.flush ports).1.installed, (channel.flush ports).2) := by
  rw [flush, flush, current_installed]
  cases here : channel.current with
  | stream stream => rfl
  | _ => simp only [installed, here]

theorem dismiss_installed : channel.installed.dismiss = channel.dismiss := by
  obtain ⟨target⟩ := channel
  cases target with
  | none => rfl
  | some target => rfl

theorem replace_installed (target : Option Target) :
    channel.installed.replace ports target = channel.replace ports target := by
  rw [replace, replace, flush_installed]
  simp only [dismiss_installed]

end Output.Channel

namespace Host

/-- The host once the current target of a hub is installed. -/
def installed (scope : Scope) (host : Host) : Host :=
  host.setChannel scope (host.hub scope).channel.installed

/-- The result of a call once the current target is installed. -/
def installing {Item : Type} (scope : Scope) (result : Host × Item) :
    Host × Item :=
  (result.1.installed scope, result.2)

section Calls

variable (scope : Scope) (host : Host)

@[simp]
theorem installed_installed :
    (host.installed scope).installed scope = host.installed scope := by
  cases scope <;> rfl

theorem installing_installing {Item : Type} (result : Host × Item) :
    installing scope (installing scope result) = installing scope result := by
  simp only [installing, installed_installed]

theorem hub_installed (within : Scope) :
    ((host.installed scope).hub within).sink = (host.hub within).sink ∧
      ((host.installed scope).hub within).filter =
          (host.hub within).filter ∧
        ((host.installed scope).hub within).statusPrinter =
          (host.hub within).statusPrinter := by
  cases scope <;> cases within <;> exact ⟨rfl, rfl, rfl⟩

theorem frame_installed :
    (host.installed scope).ports = host.ports ∧
      (host.installed scope).script = host.script ∧
        (host.installed scope).paint = host.paint ∧
          (host.installed scope).clock = host.clock := by
  cases scope <;> exact ⟨rfl, rfl, rfl, rfl⟩

theorem gate_installed (within : Scope) (category : String) :
    (host.installed scope).gate within category =
      host.gate within category := by
  cases scope <;> cases within <;> rfl

theorem wants_installed (within : Scope) (category : String) :
    (host.installed scope).wants within category =
      host.wants within category := by
  cases scope <;> cases within <;> rfl

theorem receive_installed (within : Scope) (sink : Sink) (signal : Signal) :
    (host.installed scope).receive within sink signal =
      installing scope (host.receive within sink signal) := by
  cases sink with
  | buffering waker waiting =>
      cases waker <;> cases scope <;> cases within <;> rfl
  | console =>
      obtain ⟨ports, _, paint, clock⟩ := host.frame_installed scope
      simp only [receive, installing, ports, paint, clock]
      -- The screen is the same, and is not looked into.
      generalize host.ports.screen.print _ = screen
      cases scope <;> rfl
  | _ => rfl

theorem pollBuffer_installed (within : Scope) :
    (host.installed scope).pollBuffer within =
      installing scope (host.pollBuffer within) := by
  obtain ⟨sink, _, _⟩ := host.hub_installed scope within
  rw [pollBuffer, pollBuffer, sink]
  cases (host.hub within).sink with
  | none => rfl
  | some sink =>
      cases sink with
      | buffering waker waiting => cases scope <;> cases within <;> rfl
      | _ => rfl

theorem pollAction_installed :
    (host.installed scope).pollAction =
      installing scope host.pollAction := by
  rw [pollAction, pollAction, pollBuffer_installed]
  rfl

theorem printBytes_installed (within : Scope) (data : Bytes) :
    (host.installed scope).printBytes within data =
      installing scope (host.printBytes within data) := by
  have installs := (host.hub scope).channel.installed_print host.ports data
  cases scope <;> cases within
  · simp only [printBytes, installing, installed, setChannel, setHub, hub,
      Channel.print_installed] at installs ⊢
    rw [installs]
  · rfl
  · rfl
  · simp only [printBytes, installing, installed, setChannel, setHub, hub,
      Channel.print_installed] at installs ⊢
    rw [installs]

theorem printAction_installed (text : String) :
    (host.installed scope).printAction text =
      installing scope (host.printAction text) := by
  rw [printAction, printAction, printBytes_installed]
  rfl

theorem flushOutput_installed (within : Scope) :
    (host.installed scope).flushOutput within =
      installing scope (host.flushOutput within) := by
  cases scope <;> cases within
  · simp only [flushOutput, installing, installed, setChannel, setHub, hub,
      Channel.flush_installed]
  · rfl
  · rfl
  · simp only [flushOutput, installing, installed, setChannel, setHub, hub,
      Channel.flush_installed]

end Calls

/-! ## Emissions -/

section Emission

variable {scope : Scope}
  {emitting : Host → String → Origin → Message → Host × Trace}

theorem performBy_installed
    (emitted : ∀ host category origin message,
      emitting (installed scope host) category origin message =
        installing scope (emitting host category origin message))
    (host : Host) (action : Action) :
    (host.installed scope).performBy emitting action =
      installing scope (host.performBy emitting action) := by
  induction action generalizing host with
  | print text => exact host.printAction_installed scope text
  | emit category origin text =>
      exact emitted host category origin (Message.text text)
  | poll => exact host.pollAction_installed scope
  | nothing => rfl
  | both first second firstAlike secondAlike =>
      rw [performBy, performBy, firstAlike]
      simp only [installing, secondAlike]

theorem followBy_installed
    (emitted : ∀ host category origin message,
      emitting (installed scope host) category origin message =
        installing scope (emitting host category origin message))
    (host : Host) (sink : Sink) :
    (host.installed scope).followBy emitting sink =
      installing scope (host.followBy emitting sink) := by
  obtain ⟨_, script, _⟩ := host.frame_installed scope
  have scripted : ∀ rest,
      ({ host.installed scope with script := rest } : Host) =
        installed scope { host with script := rest } := by
    intro rest
    cases scope <;> rfl
  rw [followBy, followBy, script]
  split
  · cases host.script with
    | nil => rfl
    | cons action rest =>
        simp only [scripted]
        exact performBy_installed emitted { host with script := rest } action
  · rfl

theorem emitWithin_of_follow_installed
    {turns : Nat}
    (follows : ∀ (host : Host) (sink : Sink),
      (host.installed scope).followWithin turns sink =
        installing scope (host.followWithin turns sink))
    (host : Host) (within : Scope) (category : String) (origin : Origin)
    (message : Message) :
    emitWithin turns (host.installed scope) within category origin message =
      installing scope
        (emitWithin turns host within category origin message) := by
  cases opened : host.gate within category with
  | mk passed asked =>
      have openedThere := (host.gate_installed scope within category).trans opened
      cases passed with
      | none =>
          rw [emitWithin_of_closed opened, emitWithin_of_closed openedThere]
          rfl
      | some sink =>
          rw [emitWithin_of_opened opened, emitWithin_of_opened openedThere,
            through, through, receive_installed]
          simp only [installing, follows]

theorem emitWithin_installed
    (turns : Nat) (host : Host) (within : Scope) (category : String)
    (origin : Origin) (message : Message) :
    emitWithin turns (host.installed scope) within category origin message =
      installing scope
        (emitWithin turns host within category origin message) := by
  -- Emissions from inside of a sink may take one action less.
  induction turns generalizing host within category origin message with
  | zero =>
      apply emitWithin_of_follow_installed
      intro host sink
      rfl
  | succ turns inductionHypothesis =>
      apply emitWithin_of_follow_installed
      intro host sink
      apply followBy_installed
      intro host category origin message
      rw [emitNested, emitNested, inductionHypothesis]
      rfl

variable (host : Host) (within : Scope)

theorem emitReading_installed
    (category : String) (origin : Origin) (message : Message) :
    (host.installed scope).emitReading within category origin message =
      installing scope
        (host.emitReading within category origin message) := by
  obtain ⟨_, script, _⟩ := host.frame_installed scope
  rw [emitReading, emitReading, script, emitWithin_installed]

theorem emit_installed
    (category : String) (origin : Origin) (message : Message) :
    (host.installed scope).emit within category origin message =
      installing scope (host.emit within category origin message) := by
  rw [emit, emit, emitReading_installed]
  rfl

theorem performAll_installed (actions : List Action) :
    (host.installed scope).performAll actions =
      installing scope (host.performAll actions) := by
  induction actions generalizing host with
  | nil => rfl
  | cons action rest inductionHypothesis =>
      have performed :
          (host.installed scope).perform action =
            installing scope (host.perform action) :=
        performBy_installed (fun host => host.emit_installed .shared) host
          action
      rw [performAll, performAll, performed]
      simp only [installing, inductionHypothesis]

theorem printStatus_installed :
    (host.installed scope).printStatus within =
      installing scope (host.printStatus within) := by
  obtain ⟨_, _, statusPrinter⟩ := host.hub_installed scope within
  cases registered : (host.hub within).statusPrinter with
  | none =>
      have registeredThere := statusPrinter.trans registered
      rw [printStatus_of_none registered, printStatus_of_none registeredThere]
      rfl
  | some printer =>
      have registeredThere := statusPrinter.trans registered
      rw [printStatus_of_some registered, printStatus_of_some registeredThere,
        performAll_installed]
      rfl

theorem fatal_installed (origin : Origin) (text : String) :
    (host.installed scope).fatal within origin text =
      installing scope (host.fatal within origin text) := by
  simp only [fatal, emitReading_installed, installing, printStatus_installed,
    flushOutput_installed]

end Emission

/-! ## Calls that format, and new targets -/

section Messages

variable (scope within : Scope) (host : Host) (message : Message)

theorem printReading_installed :
    (host.installed scope).printReading within message =
      installing scope (host.printReading within message) := by
  simp only [printReading, printBytes_installed]
  split <;> rfl

theorem printMessage_installed :
    (host.installed scope).printMessage within message =
      installing scope (host.printMessage within message) := by
  rw [printMessage, printMessage, printReading_installed]
  rfl

/-- A new target is not installed by a print, so it counts only what a print would
install then. -/
theorem setOutput_installed (target : Option Target) :
    installing scope ((host.installed scope).setOutput within target) =
      installing scope (host.setOutput within target) := by
  cases scope <;> cases within
  · simp only [installing, setOutput, replaceOutput, installed, setChannel,
      setHub, hub, Channel.replace_installed]
  · rfl
  · rfl
  · simp only [installing, setOutput, replaceOutput, installed, setChannel,
      setHub, hub, Channel.replace_installed]

end Messages

end Host

end SignalHub
