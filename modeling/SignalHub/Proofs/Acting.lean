import SignalHub.Proofs.Emission
import SignalHub.Proofs.Output.Channel

/-!
# Functions of the host at work

A sink or a status printer may print, poll and emit again, as long as its
script goes on.  Whatever holds of each of these acts, and of one after the
other, holds of the whole chain.
-/

namespace SignalHub

open Output Text

namespace Trace

/-- What polls from inside of a call returned. -/
def polls (trace : Trace) : List (List Signal) :=
  trace.filterMap fun
    | .polled signals => some signals
    | _ => none

/-- The texts printed from inside of a call, each with its result. -/
def prints (trace : Trace) : List (String × Except Fault Nat) :=
  trace.filterMap fun
    | .printed text result => some (text, result)
    | _ => none

/-- Whose status printers ran. -/
def statuses (trace : Trace) : List Party :=
  trace.filterMap fun
    | .status party => some party
    | _ => none

@[simp]
theorem polls_append (left right : Trace) :
    polls (left ++ right) = polls left ++ polls right :=
  List.filterMap_append

@[simp]
theorem prints_append (left right : Trace) :
    prints (left ++ right) = prints left ++ prints right :=
  List.filterMap_append

@[simp]
theorem statuses_append (left right : Trace) :
    statuses (left ++ right) = statuses left ++ statuses right :=
  List.filterMap_append

@[simp]
theorem polls_reading (scope : Scope) (trace : Trace) :
    polls (reading scope trace) = polls trace :=
  filterMap_reading (fun _ => rfl) scope trace

@[simp]
theorem prints_reading (scope : Scope) (trace : Trace) :
    prints (reading scope trace) = prints trace :=
  filterMap_reading (fun _ => rfl) scope trace

@[simp]
theorem prints_writing (scope : Scope) (trace : Trace) :
    prints (writing scope trace) = prints trace :=
  filterMap_writing (fun _ => rfl) scope trace

@[simp]
theorem prints_holding (mutex : Mutex) (trace : Trace) :
    prints (holding mutex trace) = prints trace :=
  filterMap_holding (fun _ => rfl) mutex trace

@[simp]
theorem prints_upTo (maximum : Verbosity) (trace : Trace) :
    prints (upTo maximum trace) = prints trace :=
  filterMap_upTo (fun _ => rfl) maximum trace

theorem prints_of_output
    {trace : Trace} (output : trace.all isOutput) : prints trace = [] := by
  apply filterMap_of_kind _ output
  intro event isOutput
  cases event <;> first | rfl | cases isOutput

section Conveyed

variable {trace : Trace}

theorem polls_of_conveyance
    (conveyed : trace.all isConveyance) : polls trace = [] := by
  apply filterMap_of_kind _ conveyed
  intro event isConveyance
  cases event <;> first | rfl | cases isConveyance

theorem prints_of_conveyance
    (conveyed : trace.all isConveyance) : prints trace = [] := by
  apply filterMap_of_kind _ conveyed
  intro event isConveyance
  cases event <;> first | rfl | cases isConveyance

theorem statuses_of_conveyance
    (conveyed : trace.all isConveyance) : statuses trace = [] := by
  apply filterMap_of_kind _ conveyed
  intro event isConveyance
  cases event <;> first | rfl | cases isConveyance

theorem transfers_of_conveyance
    (conveyed : trace.all isConveyance) : transfers trace = [] := by
  apply filterMap_of_kind _ conveyed
  intro event isConveyance
  cases event <;> first | rfl | cases isConveyance

end Conveyed

end Trace

namespace Host

/-! ## One act -/

section Views

variable {Item : Type} {view : Event → Option Item}

/-- Of a print from inside nothing but its outcome is seen by who does not look
at targets. -/
theorem filterMap_printAction
    (unlocked : ∀ step, view (.lock step) = none)
    (unformatted : ∀ taken announced,
      view (.formatted taken announced) = none)
    (blind : ∀ event, Trace.isOutput event → view event = none)
    (host : Host) (text : String) :
    (host.printAction text).2.filterMap view =
      (view
        (.printed text
          (host.printBytes .shared (bytes text)).2.2)).toList := by
  have silent :
      (host.printBytes .shared (bytes text)).2.1.filterMap view = [] := by
    rw [printBytes, Trace.filterMap_holding unlocked]
    exact
      Trace.filterMap_of_kind blind
        ((host.hub .shared).channel.output_print host.ports (bytes text))
  rw [printAction, List.filterMap_append,
    Trace.filterMap_reading unlocked,
    List.filterMap_cons_none (unformatted 1 false), silent, List.nil_append,
    List.filterMap_cons]
  split <;> simp_all

end Views

section Views

variable (host : Host) (text : String)

@[simp]
theorem deliveries_printAction :
    Trace.deliveries (host.printAction text).2 = [] := by
  apply filterMap_printAction (fun _ => rfl) (fun _ _ => rfl)
  intro event output
  cases event <;> first | rfl | cases output

@[simp]
theorem polls_printAction :
    Trace.polls (host.printAction text).2 = [] := by
  apply filterMap_printAction (fun _ => rfl) (fun _ _ => rfl)
  intro event output
  cases event <;> first | rfl | cases output

@[simp]
theorem statuses_printAction :
    Trace.statuses (host.printAction text).2 = [] := by
  apply filterMap_printAction (fun _ => rfl) (fun _ _ => rfl)
  intro event output
  cases event <;> first | rfl | cases output

@[simp]
theorem prints_printAction :
    Trace.prints (host.printAction text).2 =
      [(text, (host.printBytes .shared (bytes text)).2.2)] := by
  apply filterMap_printAction (fun _ => rfl) (fun _ _ => rfl)
  intro event output
  cases event <;> first | rfl | cases output

/-- A print touches the channel and the ports only. -/
theorem hub_printAction :
    ∃ channel,
      (host.printAction text).1.hub .shared =
          { host.hub .shared with channel } ∧
        (host.printAction text).1.hub .own = host.hub .own :=
  ⟨_, rfl, rfl⟩

theorem ports_setHub (scope : Scope) (hub : Hub) :
    (host.setHub scope hub).ports = host.ports := by
  cases scope <;> rfl

/-- A registered sink changes neither where a hub prints nor its status
printer. -/
theorem setSink_frame (scope watched : Scope) (sink : Option Sink) :
    ((host.setSink scope sink).hub watched).channel =
        (host.hub watched).channel ∧
      ((host.setSink scope sink).hub watched).statusPrinter =
          (host.hub watched).statusPrinter ∧
        (host.setSink scope sink).ports = host.ports := by
  cases scope <;> cases watched <;> exact ⟨rfl, rfl, rfl⟩

/-- Nor does a sink at work, which prints to the screen at most. -/
theorem receive_frame_output
    (scope watched : Scope) (sink : Sink) (signal : Signal) :
    ((host.receive scope sink signal).1.hub watched).channel =
        (host.hub watched).channel ∧
      ((host.receive scope sink signal).1.hub watched).statusPrinter =
          (host.hub watched).statusPrinter ∧
        (host.receive scope sink signal).1.ports.files =
          host.ports.files := by
  cases sink with
  | buffering waker waiting =>
      obtain ⟨channel, statusPrinter, ports⟩ :=
        host.setSink_frame scope watched
          (some (.buffering waker (waiting ++ [signal])))
      exact ⟨channel, statusPrinter, congrArg Ports.files ports⟩
  | console => simp only [receive, hub_withPorts, and_self]
  | _ => exact ⟨rfl, rfl, rfl⟩

/-- A poll touches the buffer only. -/
theorem pollBuffer_frame (scope watched : Scope) :
    ((host.pollBuffer scope).1.hub watched).channel =
        (host.hub watched).channel ∧
      ((host.pollBuffer scope).1.hub watched).statusPrinter =
          (host.hub watched).statusPrinter ∧
        (host.pollBuffer scope).1.ports = host.ports := by
  rw [pollBuffer]
  split
  · exact host.setSink_frame scope watched _
  · exact ⟨rfl, rfl, rfl⟩

theorem conveyance_pollBuffer (scope : Scope) :
    (host.pollBuffer scope).2.1.all Trace.isConveyance := by
  rw [pollBuffer]
  split <;> rfl

theorem pollAction_conveyance :
    ∃ early signals,
      host.pollAction.2 = early ++ [.polled signals] ∧
        early.all Trace.isConveyance := by
  refine
    ⟨Trace.reading .shared (host.pollBuffer .shared).2.1, _, rfl, ?_⟩
  rw [Trace.reading, List.all_append, List.all_cons,
    host.conveyance_pollBuffer]
  rfl

end Views

/-! ## One act after the other -/

/-- A relation between a host, what became of it and what happened in between,
that emissions on a hub and whatever acts from inside of them respect. -/
structure Respected
    (scope : Scope) (Relates : Host → Host → Trace → Prop) : Prop where
  asked : ∀ {host : Host} {trace : Trace},
    trace.all Trace.isAsking → Relates host host trace
  continued : ∀ {first second third : Host} {early late : Trace},
    Relates first second early → Relates second third late →
      Relates first third (early ++ late)
  scripted : ∀ (host : Host) (script : List Action),
    Relates host { host with script } []
  reading : ∀ (within : Scope) {host after : Host} {trace : Trace},
    Relates host after trace →
      Relates host after (Trace.reading within trace)
  delivered : ∀ {host : Host} {within : Scope} {sink : Sink},
    within = scope ∨ within = .shared →
      (host.hub within).sink = some sink → ∀ signal,
        Relates host (host.receive within sink signal).1
          (.delivery sink signal ::
            (host.receive within sink signal).2)
  printed : ∀ (host : Host) (text : String),
    Relates host (host.printAction text).1 (host.printAction text).2
  polled : ∀ host : Host,
    Relates host host.pollAction.1 host.pollAction.2

namespace Respected

variable {scope within : Scope} {Relates : Host → Host → Trace → Prop}

/-- Whatever is respected by what follows a delivery is respected by the whole
emission. -/
theorem through
    (respected : Respected scope Relates)
    (here : within = scope ∨ within = .shared)
    {following : Host → Sink → Host × Trace}
    (follows : ∀ (host : Host) (sink : Sink),
      Relates host (following host sink).1 (following host sink).2)
    {host : Host} {category : String} {sink : Sink} {asked : Trace}
    (opened : host.gate within category = (some sink, asked))
    (origin : Origin) (message : Message) :
    Relates host
      (host.through following within sink asked category origin message).1
      (host.through following within sink asked category origin message).2 := by
  obtain ⟨asks, _⟩ := host.asking_gate within category
  obtain ⟨_, passed⟩ := host.gate_cases within category
  rw [opened] at asks passed
  have sinkHere := passed sink rfl
  have begun :
      Relates host host
        (asked ++
          [.formatted (message.program.runBounded messageSize).taken
            message.announced]) :=
    respected.continued (respected.asked asks)
      (respected.asked rfl)
  have delivered :=
    respected.delivered here sinkHere (message.signal category origin)
  have whole :=
    respected.continued (respected.continued begun delivered) (follows _ sink)
  rw [Host.through]
  simpa only [List.append_assoc, List.cons_append, List.nil_append] using whole

theorem emitWithin_of_follow
    (respected : Respected scope Relates)
    (here : within = scope ∨ within = .shared) {turns : Nat}
    (follows : ∀ (host : Host) (sink : Sink),
      Relates host (host.followWithin turns sink).1
        (host.followWithin turns sink).2)
    (host : Host) (category : String) (origin : Origin) (message : Message) :
    Relates host
      (Host.emitWithin turns host within category origin message).1
      (Host.emitWithin turns host within category origin message).2 := by
  cases opened : host.gate within category with
  | mk passed asked =>
      cases passed with
      | none =>
          obtain ⟨asks, _⟩ := host.asking_gate within category
          rw [opened] at asks
          rw [emitWithin_of_closed opened]
          exact respected.asked asks
      | some sink =>
          rw [emitWithin_of_opened opened]
          exact respected.through here follows opened origin message

theorem performBy
    (respected : Respected scope Relates)
    {emitting : Host → String → Origin → Message → Host × Trace}
    (emitted : ∀ (host : Host) (category : String) (origin : Origin)
      (message : Message),
      Relates host (emitting host category origin message).1
        (emitting host category origin message).2)
    (host : Host) (action : Action) :
    Relates host (host.performBy emitting action).1
      (host.performBy emitting action).2 := by
  induction action generalizing host with
  | print text => exact respected.printed host text
  | emit category origin text =>
      exact emitted host category origin (Message.text text)
  | poll => exact respected.polled host
  | nothing => exact respected.asked rfl
  | both first second firstRelated secondRelated =>
      exact respected.continued (firstRelated host) (secondRelated _)

theorem emitWithin
    (respected : Respected scope Relates)
    (here : within = scope ∨ within = .shared)
    (turns : Nat) (host : Host) (category : String) (origin : Origin)
    (message : Message) :
    Relates host
      (Host.emitWithin turns host within category origin message).1
      (Host.emitWithin turns host within category origin message).2 := by
  -- Emissions from inside of a sink may take one action less.
  induction turns generalizing host within category origin message with
  | zero =>
      apply respected.emitWithin_of_follow here
      intro host sink
      exact respected.asked rfl
  | succ turns inductionHypothesis =>
      have nested :
          ∀ (host : Host) (category : String) (origin : Origin)
            (message : Message),
            Relates host (emitNested turns host category origin message).1
              (emitNested turns host category origin message).2 := by
        intro host category origin message
        have emitted :=
          inductionHypothesis (Or.inr rfl) host category origin message
        exact respected.reading .shared emitted
      apply respected.emitWithin_of_follow here
      intro host sink
      rw [followWithin, followBy]
      split
      · cases host.script with
        | nil => exact respected.asked rfl
        | cons action rest =>
            have scripted := respected.scripted host rest
            have performed :=
              respected.performBy nested { host with script := rest } action
            exact respected.continued scripted performed
      · exact respected.asked rfl

theorem emitReading
    (respected : Respected scope Relates)
    (here : within = scope ∨ within = .shared)
    (host : Host) (category : String) (origin : Origin) (message : Message) :
    Relates host (host.emitReading within category origin message).1
      (host.emitReading within category origin message).2 :=
  respected.emitWithin here host.script.length host category origin message

theorem emit
    (respected : Respected scope Relates)
    (here : within = scope ∨ within = .shared)
    (host : Host) (category : String) (origin : Origin) (message : Message) :
    Relates host (host.emit within category origin message).1
      (host.emit within category origin message).2 :=
  respected.reading within
    (respected.emitReading here host category origin message)

theorem performAll
    (respected : Respected scope Relates)
    (host : Host) (actions : List Action) :
    Relates host (host.performAll actions).1
      (host.performAll actions).2 := by
  induction actions generalizing host with
  | nil => exact respected.asked rfl
  | cons action rest inductionHypothesis =>
      have performed :=
        respected.performBy (respected.emit (Or.inr rfl)) host action
      exact respected.continued performed (inductionHypothesis _)

end Respected

end Host

end SignalHub
