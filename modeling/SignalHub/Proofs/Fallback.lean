import SignalHub.Proofs.Fatal
import SignalHub.Proofs.Output.Hosted

/-!
# What standard output gets

The console writes a line for every signal that it is handed, and whatever is
printed while the host has installed no target follows in between.  A target of the
host keeps the prints to itself, and the console never writes to it.
-/

namespace SignalHub

open Output Text

/-! ## The account of a trace -/

/-- What standard output gets of an event: a line for a signal that is delivered to
the console, and a text that is printed from inside of a call, if it is printed
aloud. -/
def Event.spoken (paint : Bool) (clock : String) (aloud : Bool) :
    Event → Bytes
  | .delivery .console signal => bytes (consoleLine paint clock signal)
  | .printed text (.ok _) => if aloud then bytes text else []
  | _ => []

namespace Trace

/-- What standard output gets of a trace, in order. -/
def spoken (paint : Bool) (clock : String) (aloud : Bool) (trace : Trace) :
    Bytes :=
  trace.flatMap (Event.spoken paint clock aloud)

section Spoken

variable (paint : Bool) (clock : String) (aloud : Bool)

@[simp]
theorem spoken_append (left right : Trace) :
    spoken paint clock aloud (left ++ right) =
      spoken paint clock aloud left ++ spoken paint clock aloud right :=
  List.flatMap_append

@[simp]
theorem spoken_reading (scope : Scope) (trace : Trace) :
    spoken paint clock aloud (reading scope trace) =
      spoken paint clock aloud trace := by
  cases scope with
  | own => rfl
  | shared => simp [spoken, reading, Event.spoken]

@[simp]
theorem spoken_writing (scope : Scope) (trace : Trace) :
    spoken paint clock aloud (writing scope trace) =
      spoken paint clock aloud trace := by
  cases scope with
  | own => rfl
  | shared => simp [spoken, writing, Event.spoken]

@[simp]
theorem spoken_upTo (maximum : Verbosity) (trace : Trace) :
    spoken paint clock aloud (upTo maximum trace) =
      spoken paint clock aloud trace := by
  induction trace with
  | nil => rfl
  | cons event rest inductionHypothesis =>
      rw [upTo] at inductionHypothesis
      rw [upTo, List.filter_cons]
      split
      · exact congrArg (_ ++ ·) inductionHypothesis
      · cases event with
        | record record => exact inductionHypothesis
        | _ => contradiction

/-- Nothing is heard of what neither delivers nor prints. -/
theorem spoken_of_kind
    {kind : Event → Bool} {trace : Trace}
    (blind : ∀ event, kind event →
      Event.spoken paint clock aloud event = [])
    (made : trace.all kind) : spoken paint clock aloud trace = [] := by
  rw [spoken, List.flatMap_eq_nil_iff]
  intro event member
  exact blind event (List.all_eq_true.mp made event member)

theorem spoken_of_output
    {trace : Trace} (output : trace.all isOutput) :
    spoken paint clock aloud trace = [] := by
  apply spoken_of_kind paint clock aloud _ output
  intro event isOutput
  cases event <;> first | rfl | cases isOutput

end Spoken

theorem shown_of_asking
    {trace : Trace} (asks : trace.all isAsking) : trace.shown = [] := by
  rw [shown, List.flatMap_eq_nil_iff]
  intro event member
  have asking := List.all_eq_true.mp asks event member
  cases event <;> first | rfl | cases asking

theorem spoken_of_asking
    {trace : Trace} (asks : trace.all isAsking)
    (paint : Bool) (clock : String) (aloud : Bool) :
    spoken paint clock aloud trace = [] := by
  apply spoken_of_kind paint clock aloud _ asks
  intro event asking
  cases event <;> first | rfl | cases asking

end Trace

/-- What standard output gets of prints, each with whether it succeeded, if they are
printed aloud. -/
def spokenOf (aloud : Bool) (prints : List (Bytes × Bool)) : Bytes :=
  if aloud then (prints.filter Prod.snd).flatMap Prod.fst else []

@[simp]
theorem spokenOf_nil (aloud : Bool) : spokenOf aloud [] = [] := by
  cases aloud <;> rfl

namespace Host

/-! ## From host to host -/

/-- The target of a hub that the host installed, if it did. -/
def hosted? (host : Host) (scope : Scope) : Option Hosted :=
  (host.hub scope).channel.hosted? host.ports

/-- Prints on a hub are aloud unless the host installed a target. -/
def aloud (host : Host) (scope : Scope) : Bool :=
  (host.hosted? scope).isNone

/-- How a call treats standard output and the target of a hub, when the call itself
makes these prints and everybody else prints on no other hub. -/
structure Heard
    (scope : Scope) (host after : Host) (trace : Trace)
    (own : List (Bytes × Bool)) : Prop where
  shown :
    trace.shown =
      trace.spoken host.paint host.clock (host.aloud scope) ++
        spokenOf (host.aloud scope) own
  unhosted : host.hosted? scope = none → after.hosted? scope = none
  hosted : ∀ hosted, host.hosted? scope = some hosted →
    ∃ last,
      after.hosted? scope = some last ∧
        hosted.Serves ((trace.printsOn scope ++ own).map Prod.fst) last ∧
        (host.ports.screen.waiting = [] →
          after.ports.screen.waiting = [])
  configured :
    (after.hub scope).channel.isConfigured =
      ((host.hub scope).channel.isConfigured ||
        !(trace.printsOn scope ++ own).isEmpty)

/-- The prints from inside of a call are on the same hub. -/
def Together (scope : Scope) (trace : Trace) : Prop :=
  scope = .shared ∨ trace.prints = []

structure Speaks
    (scope : Scope) (host after : Host) (trace : Trace)
    (own : List (Bytes × Bool)) : Prop where
  paint : after.paint = host.paint
  clock : after.clock = host.clock
  heard : Together scope trace → Heard scope host after trace own

section Speaks

variable {scope : Scope} {host after : Host} {trace : Trace}
  {own : List (Bytes × Bool)}

theorem hosted?_congr
    (channel : (after.hub scope).channel = (host.hub scope).channel)
    (files : after.ports.files = host.ports.files) :
    after.hosted? scope = host.hosted? scope := by
  rw [hosted?, hosted?, channel, Channel.hosted?_congr files]

theorem Heard.aloud_eq (heard : Heard scope host after trace own) :
    after.aloud scope = host.aloud scope := by
  rw [aloud, aloud]
  cases installed : host.hosted? scope with
  | none => rw [heard.unhosted installed]
  | some hosted =>
      obtain ⟨last, still, _⟩ := heard.hosted hosted installed
      rw [still]
      rfl

/-- A call that prints nothing and leaves the target as it is. -/
theorem Speaks.of_still
    (paint : after.paint = host.paint) (clock : after.clock = host.clock)
    (channel : (after.hub scope).channel = (host.hub scope).channel)
    (files : after.ports.files = host.ports.files)
    (screen : host.ports.screen.waiting = [] →
      after.ports.screen.waiting = [])
    (silent : trace.prints = [])
    (shown :
      trace.shown =
        trace.spoken host.paint host.clock (host.aloud scope)) :
    Speaks scope host after trace [] := by
  have same := hosted?_congr channel files
  refine ⟨paint, clock, fun _ => ?_⟩
  constructor
  · rw [spokenOf_nil, List.append_nil]
    exact shown
  · exact same.trans
  · intro hosted installed
    rw [Trace.printsOn_of_silent silent]
    exact ⟨hosted, same.trans installed, .unused hosted, screen⟩
  · rw [channel, Trace.printsOn_of_silent silent]
    exact (Bool.or_false _).symm

theorem Together.append
    {early late : Trace} (together : Together scope (early ++ late)) :
    Together scope early ∧ Together scope late := by
  rcases together with shared | silent
  · exact ⟨Or.inl shared, Or.inl shared⟩
  · rw [Trace.prints_append] at silent
    obtain ⟨first, second⟩ := List.append_eq_nil_iff.mp silent
    exact ⟨Or.inr first, Or.inr second⟩

theorem Speaks.trans
    {middle : Host} {early late : Trace}
    (begins : Speaks scope host middle early [])
    (continues : Speaks scope middle after late own) :
    Speaks scope host after (early ++ late) own := by
  refine
    ⟨continues.paint.trans begins.paint, continues.clock.trans begins.clock, ?_⟩
  intro together
  obtain ⟨first, second⟩ := together.append
  have heard := begins.heard first
  have heardThen := continues.heard second
  constructor
  · rw [Trace.shown_append, heard.shown, heardThen.shown, begins.paint,
      begins.clock, heard.aloud_eq, Trace.spoken_append, spokenOf_nil,
      List.append_nil, List.append_assoc]
  · exact fun unhosted => heardThen.unhosted (heard.unhosted unhosted)
  · intro hosted installed
    obtain ⟨between, still, serves, screen⟩ := heard.hosted hosted installed
    obtain ⟨last, stillThen, servesThen, screenThen⟩ :=
      heardThen.hosted between still
    refine ⟨last, stillThen, ?_, fun empty => screenThen (screen empty)⟩
    rw [List.append_nil] at serves
    rw [Trace.printsOn_append, List.append_assoc, List.map_append]
    exact serves.trans servesThen
  · rw [heardThen.configured, heard.configured, Trace.printsOn_append,
      List.append_nil, List.append_assoc, Bool.or_assoc]
    congr 1
    cases early.printsOn scope <;> simp

/-- Locks around a call are not heard. -/
theorem Speaks.of_same
    {other : Trace} (speaks : Speaks scope host after trace own)
    (shown : other.shown = trace.shown)
    (spoken : ∀ paint clock aloud,
      other.spoken paint clock aloud = trace.spoken paint clock aloud)
    (prints : other.prints = trace.prints) :
    Speaks scope host after other own := by
  refine ⟨speaks.paint, speaks.clock, ?_⟩
  intro together
  rw [Together, prints] at together
  have heard := speaks.heard together
  have printsOn : other.printsOn scope = trace.printsOn scope := by
    cases scope <;> simp only [Trace.printsOn, prints]
  constructor
  · rw [shown, spoken]
    exact heard.shown
  · exact heard.unhosted
  · rw [printsOn]
    exact heard.hosted
  · rw [printsOn]
    exact heard.configured

theorem Speaks.reading
    (speaks : Speaks scope host after trace own) (within : Scope) :
    Speaks scope host after (Trace.reading within trace) own :=
  speaks.of_same (trace.shown_reading within)
    (fun paint clock aloud => trace.spoken_reading paint clock aloud within)
    (Trace.prints_reading within trace)

/-! ## One act -/

/-- A use of the hub's output, seen at the channel. -/
theorem Speaks.of_output
    {channel : Channel} {ports : Ports} (output : trace.all Trace.isOutput)
    (unhosted : host.hosted? scope = none →
      trace.shown = spokenOf true own ∧ channel.hosted? ports = none)
    (hosted : ∀ hosted, host.hosted? scope = some hosted →
      spokenOf false own = [] ∧ ∃ last,
        Channel.Spares channel host.ports ports trace last ∧
          hosted.Serves (own.map Prod.fst) last)
    (configured :
      channel.isConfigured =
        ((host.hub scope).channel.isConfigured || !own.isEmpty)) :
    Speaks scope host { host.setChannel scope channel with ports }
      (Trace.holding (.channel scope) trace) own := by
  have channelThen :
      (Host.hub { host.setChannel scope channel with ports } scope).channel =
        channel := by
    simp [setChannel]
  have target :
      Host.hosted? { host.setChannel scope channel with ports } scope =
        channel.hosted? ports := by
    rw [hosted?, channelThen]
  have silent :
      Trace.printsOn scope (Trace.holding (.channel scope) trace) = [] := by
    apply Trace.printsOn_of_silent
    rw [Trace.prints_holding, Trace.prints_of_output output]
  have unspoken :
      Trace.spoken host.paint host.clock (host.aloud scope)
        (Trace.holding (.channel scope) trace) = [] := by
    have inside :=
      Trace.spoken_of_output host.paint host.clock (host.aloud scope) output
    rw [Trace.holding, Trace.spoken_append]
    exact congrArg (· ++ []) inside
  refine ⟨?_, ?_, fun _ => ?_⟩
  · cases scope <;> rfl
  · cases scope <;> rfl
  constructor
  · rw [unspoken, Trace.shown_holding, List.nil_append, aloud]
    cases installed : host.hosted? scope with
    | none => exact (unhosted installed).1
    | some target =>
        obtain ⟨unheard, last, spares, _⟩ := hosted target installed
        exact spares.silent.trans unheard.symm
  · intro installed
    rw [target]
    exact (unhosted installed).2
  · intro before installed
    obtain ⟨_, last, spares, serves⟩ := hosted before installed
    refine ⟨last, target.trans spares.hosted, ?_, ?_⟩
    · rw [silent]
      exact serves
    · intro empty
      rw [spares.screen]
      exact empty
  · rw [channelThen, silent]
    exact configured

theorem printBytes_eq (host : Host) (scope : Scope) (data : Bytes) :
    host.printBytes scope data =
      ({ host.setChannel scope
            ((host.hub scope).channel.print host.ports data).1 with
          ports := ((host.hub scope).channel.print host.ports data).2.1 },
        Trace.holding (.channel scope)
          ((host.hub scope).channel.print host.ports data).2.2.1,
        ((host.hub scope).channel.print host.ports data).2.2.2) := rfl

theorem flushOutput_eq (host : Host) (scope : Scope) :
    host.flushOutput scope =
      ({ host.setChannel scope
            ((host.hub scope).channel.flush host.ports).1 with
          ports := ((host.hub scope).channel.flush host.ports).2.1 },
        Trace.holding (.channel scope)
          ((host.hub scope).channel.flush host.ports).2.2.1,
        ((host.hub scope).channel.flush host.ports).2.2.2) := rfl

/-- One print on the hub, on standard output or on the target of the host. -/
theorem speaks_printBytes (host : Host) (scope : Scope) (data : Bytes) :
    Speaks scope host (host.printBytes scope data).1
      (host.printBytes scope data).2.1
      [(data, (host.printBytes scope data).2.2.isOk)] := by
  rw [printBytes_eq]
  cases installed : host.hosted? scope with
  | none =>
      have printed := Channel.print_of_unhosted installed data
      rw [printed]
      apply Speaks.of_output
      · rfl
      · intro _
        refine ⟨?_, rfl⟩
        simp [Trace.shown, spokenOf, Except.isOk, Except.toBool]
      · intro hosted other
        rw [installed] at other
        cases other
      · simp [Channel.isConfigured]
  | some hosted =>
      have spares := Channel.print_of_hosted installed data
      apply Speaks.of_output
      · exact (host.hub scope).channel.output_print host.ports data
      · intro unhosted
        rw [installed] at unhosted
        cases unhosted
      · intro other same
        rw [installed] at same
        cases same
        exact ⟨rfl, _, spares, .printed (.unused hosted) data⟩
      · simp [spares.configured]

theorem speaks_flushOutput (host : Host) (scope : Scope) :
    Speaks scope host (host.flushOutput scope).1
      (host.flushOutput scope).2.1 [] := by
  rw [flushOutput_eq]
  cases installed : host.hosted? scope with
  | none =>
      have flushed := Channel.flush_of_unhosted installed
      rw [flushed]
      apply Speaks.of_output
      · rfl
      · exact fun _ => ⟨rfl, installed⟩
      · intro hosted other
        rw [installed] at other
        cases other
      · simp
  | some hosted =>
      have spares := Channel.flush_of_hosted installed
      apply Speaks.of_output
      · exact (host.hub scope).channel.output_flush host.ports
      · intro unhosted
        rw [installed] at unhosted
        cases unhosted
      · intro other same
        rw [installed] at same
        cases same
        exact ⟨rfl, _, spares, .flushed (.unused hosted)⟩
      · simp [spares.configured, Channel.configured_of_hosted installed]

/-- A print from inside of a call is on the shared hub. -/
theorem speaks_printAction (host : Host) (scope : Scope) (text : String) :
    Speaks scope host (host.printAction text).1 (host.printAction text).2
      [] := by
  have printed := host.speaks_printBytes .shared (bytes text)
  refine ⟨printed.paint, printed.clock, ?_⟩
  intro together
  have shared : scope = .shared := by
    rcases together with shared | silent
    · exact shared
    · rw [prints_printAction] at silent
      cases silent
  subst shared
  have heard := printed.heard (Or.inl rfl)
  have inside :
      Trace.printsOn .shared (host.printBytes .shared (bytes text)).2.1 = [] := by
    rw [printBytes_eq]
    apply Trace.printsOn_of_silent
    rw [Trace.prints_holding]
    exact Trace.prints_of_output (Channel.output_print _ _ _)
  have prints :
      Trace.printsOn .shared (host.printAction text).2 ++ [] =
        Trace.printsOn .shared (host.printBytes .shared (bytes text)).2.1 ++
          [(bytes text, (host.printBytes .shared (bytes text)).2.2.isOk)] := by
    rw [Trace.printsOn, prints_printAction, inside]
    rfl
  have noted : ∀ (aloud : Bool) (result : Except Fault Nat),
      Trace.spoken host.paint host.clock aloud [.printed text result] =
        spokenOf aloud [(bytes text, result.isOk)] := by
    intro aloud result
    cases result <;> cases aloud <;> rfl
  constructor
  · rw [printAction, Trace.shown_append, Trace.shown_reading,
      Trace.shown_formatted, heard.shown, Trace.spoken_append,
      Trace.spoken_reading, noted, spokenOf_nil]
    rfl
  · exact heard.unhosted
  · rw [prints]
    exact heard.hosted
  · rw [prints]
    exact heard.configured

/-- The console ends its line, so that nothing of it waits. -/
theorem speaks_console
    (host : Host) (within scope : Scope) (signal : Signal) :
    Speaks scope host (host.receive within .console signal).1
      [.delivery .console signal,
        .shown (bytes (consoleLine host.paint host.clock signal))] [] := by
  have line :
      host.ports.screen.print
          (bytes (consoleLine host.paint host.clock signal)) = ⟨[]⟩ := by
    rw [consoleLine, Screen.print_line]
  have received :
      (host.receive within .console signal).1 =
        { host with ports.screen := ⟨[]⟩ } := by
    simp only [receive, line]
  rw [received]
  apply Speaks.of_still
  · rfl
  · rfl
  · simp
  · rfl
  · exact fun _ => rfl
  · rfl
  · simp [Trace.shown, Trace.spoken, Event.spoken]

/-- A waker looks at the buffer and says nothing. -/
theorem wake_unheard (host : Host) :
    host.wake.shown = [] ∧
      ∀ paint clock aloud, host.wake.spoken paint clock aloud = [] := by
  rw [wake]
  cases host.shared.waiting? <;> exact ⟨rfl, fun _ _ _ => rfl⟩

theorem speaks_receive
    (host : Host) (within scope : Scope) (sink : Sink) (signal : Signal) :
    Speaks scope host (host.receive within sink signal).1
      (.delivery sink signal :: (host.receive within sink signal).2) [] := by
  obtain ⟨channel, _, files⟩ :=
    host.receive_frame_output within scope sink signal
  have silent :
      Trace.prints
          (.delivery sink signal :: (host.receive within sink signal).2) =
        [] :=
    Trace.prints_of_conveyance
      (host.conveyance_receive within sink signal)
  cases sink with
  | console => exact speaks_console host within scope signal
  | buffering waker waiting =>
      obtain ⟨_, _, ports⟩ :=
        host.setSink_frame within scope
          (some (.buffering waker (waiting ++ [signal])))
      refine
        Speaks.of_still ?_ ?_ channel files (fun empty => ports ▸ empty) silent
          ?_
      · cases within <;> rfl
      · cases within <;> rfl
      · cases waker with
        | none => rfl
        | some waker =>
            obtain ⟨shown, spoken⟩ :=
              wake_unheard
                (host.setSink within
                  (some (.buffering (some waker) (waiting ++ [signal]))))
            exact shown.trans (spoken _ _ _).symm
  | _ => exact Speaks.of_still rfl rfl channel files id silent rfl

theorem speaks_pollAction (host : Host) (scope : Scope) :
    Speaks scope host host.pollAction.1 host.pollAction.2 [] := by
  obtain ⟨channel, _, ports⟩ := host.pollBuffer_frame .shared scope
  obtain ⟨early, signals, traced, conveyed⟩ := host.pollAction_conveyance
  have silent : host.pollAction.2.prints = [] := by
    rw [traced, Trace.prints_append, Trace.prints_of_conveyance conveyed]
    rfl
  have frame :
      host.pollAction.1.paint = host.paint ∧
        host.pollAction.1.clock = host.clock ∧
          host.pollAction.2.shown =
            host.pollAction.2.spoken host.paint host.clock
              (host.aloud scope) := by
    rw [pollAction, pollBuffer]
    cases (host.hub .shared).sink with
    | none => exact ⟨rfl, rfl, rfl⟩
    | some sink => cases sink <;> exact ⟨rfl, rfl, rfl⟩
  exact
    Speaks.of_still frame.1 frame.2.1 channel (congrArg Ports.files ports)
      (fun empty => ports ▸ empty) silent frame.2.2

theorem respected_speaks (scope : Scope) :
    Respected scope fun host after trace => Speaks scope host after trace [] := by
  constructor
  · intro host trace asks
    apply Speaks.of_still rfl rfl rfl rfl id
    · exact Trace.prints_of_conveyance (Trace.conveyance_of_asking asks)
    · rw [Trace.shown_of_asking asks, Trace.spoken_of_asking asks]
  · intro first second third early late begins continues
    exact begins.trans continues
  · intro host script
    have channel :
        (Host.hub { host with script } scope).channel =
          (host.hub scope).channel := by
      rw [hub_withScript]
    exact Speaks.of_still rfl rfl channel rfl id rfl rfl
  · intro within host after trace inside
    exact inside.reading within
  · intro host within sink _ _ signal
    exact host.speaks_receive within scope sink signal
  · exact fun host text => host.speaks_printAction scope text
  · exact fun host => host.speaks_pollAction scope

/-! ## The path to an abort -/

theorem speaks_printStatus (host : Host) (scope : Scope) :
    Speaks scope host (host.printStatus scope).1 (host.printStatus scope).2
      [] := by
  cases registered : (host.hub scope).statusPrinter with
  | none =>
      rw [printStatus_of_none registered]
      exact Speaks.of_still rfl rfl rfl rfl id rfl rfl
  | some printer =>
      rw [printStatus_of_some registered]
      have performed :=
        (respected_speaks scope).performAll host printer.actions
      exact performed.of_same rfl (fun _ _ _ => rfl) rfl

section Path

variable (host : Host) (scope : Scope) (origin : Origin) (text : String)

/-- What precedes the last flush. -/
theorem speaks_reported :
    Speaks scope host (host.fatalPath scope origin text).reported
      ((host.fatalPath scope origin text).emission ++
        (host.fatalPath scope origin text).status) [] :=
  ((respected_speaks scope).emitReading (Or.inl rfl) host "ERROR" origin
      (Message.text text)).trans
    (speaks_printStatus _ scope)

theorem speaks_fatal :
    Speaks scope host (host.fatal scope origin text).1
      (host.fatal scope origin text).2 [] := by
  have flushed :=
    (host.speaks_reported scope origin text).trans
      (speaks_flushOutput _ scope)
  have entering : ∀ scope,
      Trace.shown (Trace.entering scope) = [] ∧
        (∀ paint clock aloud,
          Trace.spoken paint clock aloud (Trace.entering scope) = []) ∧
        Trace.prints (Trace.entering scope) = [] := by
    intro scope
    cases scope <;> exact ⟨rfl, fun _ _ _ => rfl, rfl⟩
  have failing : ∀ fault,
      Trace.shown (Trace.failing fault) = [] ∧
        (∀ paint clock aloud,
          Trace.spoken paint clock aloud (Trace.failing fault) = []) ∧
        Trace.prints (Trace.failing fault) = [] := by
    intro fault
    cases fault <;> exact ⟨rfl, fun _ _ _ => rfl, rfl⟩
  rw [fatal_eq_fatalPath]
  apply flushed.of_same
  · simp only [Trace.shown_append, entering, failing, List.nil_append,
      List.append_nil]
    rfl
  · intro paint clock aloud
    simp only [Trace.spoken_append, entering, failing, List.nil_append,
      List.append_nil]
    rfl
  · simp only [Trace.prints_append, entering, failing, List.nil_append,
      List.append_nil]
    rfl

/-- Whatever standard output holds back is let go before the abort, unless the host
installed a target; and then it holds nothing back. -/
theorem waiting_fatal
    (together : Together scope (host.fatal scope origin text).2)
    (empty : host.ports.screen.waiting = []) :
    (host.fatal scope origin text).1.ports.screen.waiting = [] := by
  cases installed : host.hosted? scope with
  | some hosted =>
      have heard := (host.speaks_fatal scope origin text).heard together
      obtain ⟨_, _, _, screen⟩ := heard.hosted hosted installed
      exact screen empty
  | none =>
      have reported :
          Together scope
            ((host.fatalPath scope origin text).emission ++
              (host.fatalPath scope origin text).status) := by
        rw [fatal_eq_fatalPath] at together
        have before := together.append.1.append.1
        rw [List.append_assoc] at before
        exact before.append.2
      have heard := (host.speaks_reported scope origin text).heard reported
      have flushes := (host.fatalPath_from scope origin text).flushes
      have screen := Channel.current_of_unhosted (heard.unhosted installed)
      exact (flushes.screen screen).2.1

end Path

end Speaks

end Host

end SignalHub
