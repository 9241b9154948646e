import SignalHub.Proofs.Locking

/-!
# Calls from inside of calls

A function of the host that is called on the way of a signal may print, poll and
emit again, and the functions called on the way of these signals may do the same.
What such a function does is the calls that it makes, one after the other and
nothing between them.
-/

namespace SignalHub

open Output Text

/-- A function of the host is about to act: what has happened since the
outermost call began, the host then, and the action. -/
structure Moment where
  before : Trace
  host : Host
  action : Action

/-- What happens when the action is performed. -/
def Moment.trace (moment : Moment) : Trace :=
  (moment.host.perform moment.action).2

/-- The same with something else before it. -/
def Moment.following (moment : Moment) (earlier : Trace) : Moment :=
  { moment with before := earlier ++ moment.before }

/-- Several actions as one. -/
def Action.all : List Action → Action
  | [] => .nothing
  | action :: rest => .both action (all rest)

/-- The calls that an action consists of, each at its moment. -/
def Action.calls (before : Trace) (host : Host) : Action → List Moment
  | .nothing => []
  | .both first second =>
      first.calls before host ++
        second.calls (before ++ (host.perform first).2) (host.perform first).1
  | call => [⟨before, host, call⟩]

def Moment.calls (moment : Moment) : List Moment :=
  moment.action.calls moment.before moment.host

/-- Whether an event is the call of a function of the host that may act. -/
def Event.isTurn : Event → Bool
  | .received _ _ | .woken _ | .status _ => true
  | _ => false

namespace Host

/-- When a function of the host acts from inside of an emission, if one
does. -/
def acting? (host : Host) (scope : Scope) (category : String)
    (origin : Origin) (message : Message) : Option Moment :=
  match host.gate scope category with
  | (none, _) => none
  | (some sink, asked) =>
      let signal := message.signal category origin
      let received := host.receive scope sink signal
      match received.1.script with
      | [] => none
      | action :: rest =>
          if sink.acts then
            some
              { before :=
                  asked ++
                    [.formatted (message.program.runBounded messageSize).taken
                        message.announced,
                      .delivery sink signal] ++ received.2
                host := { received.1 with script := rest }
                action }
          else none

section Perform

variable (host : Host)

@[simp]
theorem perform_emit (category : String) (origin : Origin) (text : String) :
    host.perform (.emit category origin text) =
      host.emit .shared category origin (Message.text text) := rfl

theorem perform_both (first second : Action) :
    host.perform (.both first second) =
      (((host.perform first).1.perform second).1,
        (host.perform first).2 ++ ((host.perform first).1.perform second).2) :=
  rfl

theorem perform_all (actions : List Action) :
    host.perform (.all actions) = host.performAll actions := by
  induction actions generalizing host with
  | nil => rfl
  | cons action rest inductionHypothesis =>
      rw [Action.all, perform_both, inductionHypothesis]
      rfl

end Perform

/-! ## The calls of an action -/

/-- An action does what its calls do. -/
theorem perform_eq_calls (host : Host) (before : Trace) (action : Action) :
    (host.perform action).2 =
      (action.calls before host).flatMap Moment.trace := by
  induction action generalizing host before with
  | nothing => rfl
  | both first second firstSame secondSame =>
      rw [perform_both, Action.calls, List.flatMap_append, ← firstSame,
        ← secondSame]
  | print text => exact (List.append_nil _).symm
  | emit category origin text => exact (List.append_nil _).symm
  | poll => exact (List.append_nil _).symm

theorem split_of_mem_calls
    {host : Host} {before : Trace} {action : Action} {call : Moment}
    (member : call ∈ action.calls before host) :
    ∃ early late,
      (host.perform action).2 = early ++ call.trace ++ late ∧
        call.before = before ++ early := by
  induction action generalizing host before with
  | nothing => cases member
  | both first second firstSplits secondSplits =>
      rw [perform_both]
      rcases List.mem_append.mp member with inFirst | inSecond
      · obtain ⟨early, late, split, start⟩ := firstSplits inFirst
        refine
          ⟨early, late ++ ((host.perform first).1.perform second).2, ?_, start⟩
        rw [split, List.append_assoc]
      · obtain ⟨early, late, split, start⟩ := secondSplits inSecond
        refine ⟨(host.perform first).2 ++ early, late, ?_, ?_⟩
        · rw [split, List.append_assoc, List.append_assoc, List.append_assoc]
        · rw [start, List.append_assoc]
  | print text =>
      cases List.mem_singleton.mp member
      exact ⟨[], [], (List.append_nil _).symm, (List.append_nil _).symm⟩
  | emit category origin text =>
      cases List.mem_singleton.mp member
      exact ⟨[], [], (List.append_nil _).symm, (List.append_nil _).symm⟩
  | poll =>
      cases List.mem_singleton.mp member
      exact ⟨[], [], (List.append_nil _).symm, (List.append_nil _).symm⟩

/-! ## Emissions that let a function act -/

section Acting

variable {host : Host} {scope : Scope} {category : String} {origin : Origin}
  {message : Message} {acting : Moment}

theorem acting_cases
    (acts : host.acting? scope category origin message = some acting) :
    ∃ sink asked rest,
      host.gate scope category = (some sink, asked) ∧
        sink.acts = true ∧
        (host.receive scope sink
            (message.signal category origin)).1.script =
          acting.action :: rest ∧
        acting.host =
          { (host.receive scope sink (message.signal category origin)).1 with
            script := rest } ∧
        acting.before =
          asked ++
            [.formatted (message.program.runBounded messageSize).taken
                message.announced,
              .delivery sink (message.signal category origin)] ++
            (host.receive scope sink (message.signal category origin)).2 := by
  rw [acting?] at acts
  cases opened : host.gate scope category with
  | mk passed asked =>
      rw [opened] at acts
      cases passed with
      | none => cases acts
      | some sink =>
          simp only at acts
          split at acts
          · cases acts
          · rename_i action rest script
            split at acts
            · rename_i willing
              cases acts
              exact ⟨sink, asked, rest, rfl, willing, script, rfl, rfl⟩
            · cases acts

theorem emitReading_of_acting
    (acts : host.acting? scope category origin message = some acting) :
    host.emitReading scope category origin message =
      ((acting.host.perform acting.action).1, acting.before ++ acting.trace) := by
  obtain ⟨sink, asked, rest, opened, willing, script, atMoment, before⟩ :=
    acting_cases acts
  rw [emitReading_eq_follow opened, through, follow, followBy, if_pos willing,
    script, Moment.trace, before, atMoment]
  rfl

theorem exists_isTurn_receive
    {sink : Sink} (willing : sink.acts = true)
    (host : Host) (scope : Scope) (signal : Signal) :
    ∃ early event,
      (host.receive scope sink signal).2 = early ++ [event] ∧
        event.isTurn = true := by
  cases sink with
  | callback => exact ⟨[], _, rfl, rfl⟩
  | foreign => exact ⟨[], _, rfl, rfl⟩
  | buffering waker waiting =>
      cases waker with
      | none => cases willing
      | some waker =>
          simp only [receive, buffer, wake]
          split
          · exact ⟨_, _, (List.append_assoc _ _ _).symm, rfl⟩
          · exact ⟨_, _, (List.append_assoc _ _ _).symm, rfl⟩
  | _ => cases willing

theorem exists_isTurn_of_acting
    (acts : host.acting? scope category origin message = some acting) :
    ∃ early event,
      acting.before = early ++ [event] ∧ event.isTurn = true := by
  obtain ⟨sink, asked, rest, _, willing, _, _, before⟩ := acting_cases acts
  obtain ⟨early, event, taken, turn⟩ :=
    exists_isTurn_receive willing host scope
      (message.signal category origin)
  rw [before, taken]
  exact ⟨_, event, (List.append_assoc _ _ _).symm, turn⟩

end Acting

/-! ## Nothing waits -/

section Unhindered

variable (host : Host)

theorem quiet_of_output
    {trace : Trace} (output : trace.all Trace.isOutput) :
    trace.lockSteps = [] ∧ ∀ event ∈ trace, event.isCallback = false := by
  constructor
  · apply Trace.filterMap_of_kind _ output
    intro event isOutput
    cases event <;> first | rfl | cases isOutput
  · intro event member
    have isOutput := List.all_eq_true.mp output event member
    cases event <;> first | rfl | cases isOutput

theorem unhindered_gate (scope : Scope) (category : String) :
    Trace.Unhindered 0 (host.gate scope category).2 ∧
      Trace.Unhindered 0 (host.wants scope category).2 := by
  obtain ⟨gate, wants⟩ := host.asking_gate scope category
  exact
    ⟨.of_unlocked (Trace.lockSteps_of_asking gate),
      .of_unlocked (Trace.lockSteps_of_asking wants)⟩

/-- The waker is called when the buffer is free again. -/
theorem unhindered_wake : Trace.Unhindered 0 host.wake := by
  rw [wake]
  split
  · have looked :
        Trace.Unhindered 0 (Trace.holding (.buffer .shared) []) :=
      .holding (.buffer .shared) rfl (by simp)
    exact (looked.reading .shared).append (.of_unlocked rfl)
  · exact (Trace.Unhindered.of_unlocked rfl).reading .shared |>.append
      (.of_unlocked rfl)

theorem unhindered_receive
    (scope : Scope) (sink : Sink) (signal : Signal) :
    Trace.Unhindered 0 (host.receive scope sink signal).2 := by
  cases sink with
  | buffering waker waiting =>
      have pushed :
          Trace.Unhindered 0 (Trace.holding (.buffer scope) []) :=
        .holding (.buffer scope) rfl (by simp)
      cases waker with
      | none => exact pushed.append (.of_unlocked rfl)
      | some waker => exact pushed.append (unhindered_wake _)
  | _ => exact .of_unlocked rfl

theorem unhindered_printBytes (scope : Scope) (data : Bytes) :
    Trace.Unhindered 0 (host.printBytes scope data).2.1 := by
  obtain ⟨unlocked, quiet⟩ :=
    quiet_of_output ((host.hub scope).channel.output_print host.ports data)
  exact .holding (.channel scope) unlocked quiet

theorem unhindered_printAction (text : String) :
    Trace.Unhindered 0 (host.printAction text).2 := by
  have begun : Trace.Unhindered 0 [.formatted 1 false] := .of_unlocked rfl
  have printed := begun.append (host.unhindered_printBytes .shared (bytes text))
  exact (printed.reading .shared).append (.of_unlocked rfl)

theorem unhindered_pollBuffer (scope : Scope) :
    Trace.Unhindered 0 (host.pollBuffer scope).2.1 := by
  rw [pollBuffer]
  split
  · exact .holding (.buffer scope) rfl (by simp)
  · exact .of_unlocked rfl

theorem unhindered_pollAction :
    Trace.Unhindered 0 host.pollAction.2 :=
  ((host.unhindered_pollBuffer .shared).reading .shared).append
    (.of_unlocked rfl)

theorem unhindered_flushOutput (scope : Scope) :
    Trace.Unhindered 0 (host.flushOutput scope).2.1 := by
  obtain ⟨unlocked, quiet⟩ :=
    quiet_of_output ((host.hub scope).channel.output_flush host.ports)
  exact .holding (.channel scope) unlocked quiet

theorem respected_unhindered (scope : Scope) :
    Respected scope fun _ _ trace => Trace.Unhindered 0 trace := by
  constructor
  · intro host trace asks
    exact .of_unlocked (Trace.lockSteps_of_asking asks)
  · intro first second third early late begins continues
    exact begins.append continues
  · intro host script
    exact .of_unlocked rfl
  · intro within host after trace inside
    exact inside.reading within
  · intro host within sink _ _ signal
    have delivered : Trace.Unhindered 0 [.delivery sink signal] :=
      .of_unlocked rfl
    exact delivered.append (host.unhindered_receive within sink signal)
  · intro host text
    exact host.unhindered_printAction text
  · intro host
    exact host.unhindered_pollAction

theorem unhindered_perform (action : Action) :
    Trace.Unhindered 0 (host.perform action).2 := by
  have respected := respected_unhindered .shared
  exact respected.performBy (respected.emit (Or.inr rfl)) host action

/-- Before each call the thread has given back all that earlier calls of the
same action held. -/
theorem passes_of_mem_calls
    {host : Host} {before : Trace} {action : Action} {call : Moment}
    {readers : Nat} (passes : before.Passes readers)
    (member : call ∈ action.calls before host) :
    call.before.Passes readers := by
  induction action generalizing host before with
  | nothing => cases member
  | both first second inFirst inSecond =>
      rcases List.mem_append.mp member with member | member
      · exact inFirst passes member
      · have performed := passes.append (host.unhindered_perform first).passes
        exact inSecond performed member
  | _ =>
      cases List.mem_singleton.mp member
      exact passes

theorem unhindered_emitReading
    (scope : Scope) (category : String) (origin : Origin) (message : Message) :
    Trace.Unhindered 0
      (host.emitReading scope category origin message).2 :=
  (respected_unhindered scope).emitReading (Or.inl rfl) host category origin
    message

theorem unhindered_emit
    (scope : Scope) (category : String) (origin : Origin) (message : Message) :
    Trace.Unhindered 0 (host.emit scope category origin message).2 :=
  (host.unhindered_emitReading scope category origin message).reading scope

theorem unhindered_of_acting
    {scope : Scope} {category : String} {origin : Origin} {message : Message}
    {acting : Moment}
    (acts : host.acting? scope category origin message = some acting) :
    Trace.Unhindered 0 acting.before := by
  obtain ⟨sink, asked, rest, opened, _, _, _, before⟩ := acting_cases acts
  obtain ⟨gate, _⟩ := host.unhindered_gate scope category
  rw [opened] at gate
  have passed :
      Trace.Unhindered 0
        [.formatted (message.program.runBounded messageSize).taken
            message.announced,
          .delivery sink (message.signal category origin)] :=
    .of_unlocked rfl
  have begun := gate.append passed
  rw [before]
  exact begun.append (host.unhindered_receive scope sink _)

end Unhindered

end Host

end SignalHub
