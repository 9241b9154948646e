import SignalHub.Proofs.Session.Fallback
import SignalHub.Proofs.Session.Installed

/-!
# The standard output of a process

What standard output got during a session follows from the steps and their answers:
which signals went to the console, what was printed, and whether the host had
installed a target by then.
-/

namespace SignalHub

open Output Text

/-! ## The account -/

/-- What standard output gets of a step. -/
def spokenBy
    (within : Scope) (paint : Bool) (clock : String) (aloud : Bool)
    (step : Step) (answer : Answer) : Bytes :=
  answer.trace.spoken paint clock aloud ++
    spokenOf aloud (ownPrints within within step answer.reply)

/-- What standard output gets of steps, in order.  Prints are aloud until the host
installs a target, and again once it goes back to none. -/
def spokenDuring (within : Scope) (paint : Bool) (clock : String) :
    Bool → List (Step × Answer) → Bytes
  | _, [] => []
  | aloud, (step, answer) :: rest =>
      spokenBy within paint clock aloud step answer ++
        spokenDuring within paint clock (step.aloud aloud) rest

/-- The last replacement installed a target, or something was printed since. -/
def Configured (within : Scope) (entries : List (Step × Answer)) : Prop :=
  ∃ before entry after,
    entries = before ++ entry :: after ∧
      ((∃ target, entry.1.newTarget? = some (some target)) ∨
        printsOf within within entry.1 entry.2.trace entry.2.reply ≠ []) ∧
      ∀ later ∈ after, later.1.newTarget? = none

/-- The last step decides, unless it leaves the target in its place. -/
theorem configured_concat
    (within : Scope) (entries : List (Step × Answer)) (entry : Step × Answer) :
    Configured within (entries ++ [entry]) ↔
      ((∃ target, entry.1.newTarget? = some (some target)) ∨
          printsOf within within entry.1 entry.2.trace entry.2.reply ≠ []) ∨
        entry.1.newTarget? = none ∧ Configured within entries := by
  constructor
  · rintro ⟨before, decisive, after, split, decides, keeps⟩
    rcases List.eq_nil_or_concat after with rfl | ⟨early, last, rfl⟩
    · obtain ⟨_, same⟩ := List.append_inj' split rfl
      cases same
      exact Or.inl decides
    · rw [List.concat_eq_append, ← List.cons_append,
        ← List.append_assoc] at split
      obtain ⟨same, rest⟩ := List.append_inj' split rfl
      cases rest
      rw [List.concat_eq_append] at keeps
      refine Or.inr ⟨keeps entry (by simp), before, decisive, early, same,
        decides, ?_⟩
      intro later member
      exact keeps later (List.mem_append_left _ member)
  · rintro (decides | ⟨keeps, before, decisive, after, rfl, decides, keep⟩)
    · exact ⟨entries, entry, [], rfl, decides, List.forall_mem_nil _⟩
    · refine ⟨before, decisive, after ++ [entry], ?_, decides, ?_⟩
      · rw [List.append_assoc, List.cons_append]
      · intro later member
        rcases List.mem_append.mp member with early | last
        · exact keep later early
        · rw [List.mem_singleton.mp last]
          exact keeps

namespace Session

/-! ## One hub -/

/-- A step on the one hub that the session is for.  On a hub of its own the session
makes no call of the foreign side, and nobody prints on the shared one. -/
def Alone (session : Session) (step : Step) : Prop :=
  session.scope = .shared ∨
    step.isNative = true ∧ (session.answer step).trace.prints = []

def OnOneHub (session : Session) (steps : List Step) : Prop :=
  session.scope = .shared ∨
    (∀ step ∈ steps, step.isNative = true) ∧
      ∀ answer ∈ session.run steps, answer.trace.prints = []

section OneHub

variable {session reached after : Session} {step : Step}
  {first rest : List Step}

theorem OnOneHub.alone (onOne : session.OnOneHub (step :: rest)) :
    session.Alone step := by
  rcases onOne with shared | ⟨native, silent⟩
  · exact Or.inl shared
  · refine Or.inr ⟨native step List.mem_cons_self, silent _ ?_⟩
    rw [run_cons]
    exact List.mem_cons_self

/-- Both parts of a run are on the hub. -/
theorem OnOneHub.split
    (onOne : session.OnOneHub (first ++ rest))
    (arrives : session.reach first = some reached) :
    session.OnOneHub first ∧ reached.OnOneHub rest := by
  rcases onOne with shared | ⟨native, silent⟩
  · exact ⟨Or.inl shared, Or.inl ((scope_reach arrives).trans shared)⟩
  · rw [run_append arrives] at silent
    constructor
    · refine Or.inr ⟨?_, ?_⟩
      · exact fun step member => native step (List.mem_append_left _ member)
      · exact fun answer member => silent answer (List.mem_append_left _ member)
    · refine Or.inr ⟨?_, ?_⟩
      · exact fun step member => native step (List.mem_append_right _ member)
      · exact fun answer member => silent answer (List.mem_append_right _ member)

/-- What is never run does not matter. -/
theorem OnOneHub.initial (onOne : session.OnOneHub (first ++ rest)) :
    session.OnOneHub first := by
  cases arrives : session.reach first with
  | some reached => exact (onOne.split arrives).1
  | none =>
      rcases onOne with shared | ⟨native, silent⟩
      · exact Or.inl shared
      · rw [run_of_aborted arrives] at silent
        refine Or.inr ⟨?_, silent⟩
        exact fun step member => native step (List.mem_append_left _ member)

theorem OnOneHub.next
    (onOne : session.OnOneHub (step :: rest))
    (continues : session.next step = some after) : after.OnOneHub rest := by
  have arrives : session.reach [step] = some after := by
    rw [reach, continues]
    rfl
  have whole : session.OnOneHub ([step] ++ rest) := onOne
  exact (whole.split arrives).2

end OneHub

/-! ## One step -/

/-- What a step makes of the account. -/
structure Accounts (session : Session) (step : Step) (after : Host) : Prop where
  paint : after.paint = session.host.paint
  clock : after.clock = session.host.clock
  aloud :
    after.aloud session.scope = step.aloud (session.host.aloud session.scope)
  configured :
    (after.hub session.scope).channel.isConfigured = true ↔
      ((∃ target, step.newTarget? = some (some target)) ∨
          printsOf session.scope session.scope step
            (session.answer step).trace (session.answer step).reply ≠ []) ∨
        step.newTarget? = none ∧ session.hub.channel.isConfigured = true

section Step

variable {session after : Session} {step : Step}

theorem Alone.here (alone : session.Alone step) :
    session.scope = .shared ∨ step.isNative = true := by
  rcases alone with shared | ⟨native, _⟩
  · exact Or.inl shared
  · exact Or.inr native

/-- A step that leaves the target in its place is heard as its answer tells. -/
theorem heard_answer
    (keeps : step.newTarget? = none) (alone : session.Alone step) :
    Host.Heard session.scope session.host (session.perform step).1.host
      (session.answer step).trace
      (ownPrints session.scope session.scope step
        (session.answer step).reply) := by
  have speaks := speaks_perform session keeps alone.here
  have seen :
      Host.Speaks session.scope session.host (session.perform step).1.host
        (session.answer step).trace
        (ownPrints session.scope session.scope step
          (session.answer step).reply) := by
    rw [trace_answer, reply_answer]
    apply speaks.of_same
    · exact Trace.shown_upTo _ _
    · intro paint clock aloud
      exact Trace.spoken_upTo paint clock aloud _ _
    · exact Trace.prints_upTo _ _
  apply seen.heard
  rcases alone with shared | ⟨_, silent⟩
  · exact Or.inl shared
  · exact Or.inr silent

theorem accounts_of_keeping
    (keeps : step.newTarget? = none) (alone : session.Alone step) :
    session.Accounts step (session.perform step).1.host := by
  have speaks := speaks_perform session keeps alone.here
  have heard := heard_answer keeps alone
  constructor
  · exact speaks.paint
  · exact speaks.clock
  · rw [heard.aloud_eq, Step.aloud, keeps]
  · rw [heard.configured, ← printsOf_eq, keeps]
    simp [Session.hub, or_comm]

theorem accounts_of_replacing
    {target : Option Target} (replaces : step.newTarget? = some target)
    (alone : session.Alone step) :
    session.Accounts step (session.perform step).1.host := by
  have replaced := replaces_perform replaces alone.here
  have prints :
      printsOf session.scope session.scope step (session.answer step).trace
        (session.answer step).reply = [] := by
    have silent : Trace.prints (session.perform step).2.1 = [] := by
      apply Trace.filterMap_of_kind _ replaced.quiet
      intro event printing
      cases event <;> first | rfl | cases printing
    rw [printsOf_eq, ownPrints_of_replacing replaces, trace_answer,
      Trace.printsOn_of_silent, List.append_nil]
    rw [Trace.prints_upTo, silent]
  constructor
  · exact replaced.paint
  · exact replaced.clock
  · rw [Host.aloud, Host.hosted?, replaced.channel, Step.aloud, replaces]
    cases target with
    | none => rfl
    | some target => cases target <;> rfl
  · rw [replaced.channel, prints, replaces]
    cases target with
    | none => simp [Channel.isConfigured]
    | some target => simp [Channel.isConfigured]

theorem accounts_next
    (alone : session.Alone step) (continues : session.next step = some after) :
    session.Accounts step after.host := by
  have performed : session.Accounts step (session.perform step).1.host := by
    cases replaces : step.newTarget? with
    | none => exact accounts_of_keeping replaces alone
    | some target => exact accounts_of_replacing replaces alone
  have settled := eq_settle_of_next continues
  obtain ⟨channel, files⟩ := host_next continues session.scope
  constructor
  · rw [settled]
    exact performed.paint
  · rw [settled]
    exact performed.clock
  · rw [Host.aloud, Host.hosted?_congr channel files]
    exact performed.aloud
  · rw [channel]
    exact performed.configured

/-- Unless something is held back at an abort, all that was shown is seen. -/
theorem shown_eq_shown
    (empty : (session.perform step).2.2 = .aborted →
      (session.perform step).1.host.ports.screen.waiting = []) :
    (session.answer step).shown = (session.answer step).trace.shown := by
  rw [trace_answer, Trace.shown_upTo, answer]
  by_cases ends : (session.perform step).2.2 = .aborted
  · rw [ends, answerOf]
    simp only [empty ends, List.length_nil, Nat.sub_zero, List.take_length]
  · rw [answerOf_of_goesOn ends]

theorem scope_of_fatal
    {scope : Scope} {origin : Origin} {text : String}
    (reports : step.fatal? session.scope = some (scope, origin, text))
    (alone : session.Alone step) : scope = session.scope := by
  cases step with
  | fatal other message =>
      by_cases succeeds : message.program.collect.succeeded = true
      · rw [Step.fatal?, if_pos succeeds] at reports
        cases reports
        rfl
      · rw [Step.fatal?, if_neg succeeds] at reports
        cases reports
  | foreign call =>
      cases call with
      | fatal message =>
          cases reports
          rcases alone.here with shared | native
          · exact shared.symm
          · cases native
      | _ => cases reports
  | _ => cases reports

/-- At an abort standard output holds nothing back. -/
theorem waiting_of_aborted
    (settled : session.Settled) (alone : session.Alone step)
    (ends : (session.perform step).2.2 = .aborted) :
    (session.perform step).1.host.ports.screen.waiting = [] := by
  have empty : session.host.ports.screen.waiting = [] := by
    rw [← settled]
    rfl
  cases reports : step.fatal? session.scope with
  | none => exact absurd ends (goesOn_of_survived reports)
  | some report =>
      obtain ⟨scope, origin, text⟩ := report
      have here := scope_of_fatal reports alone
      have performed := perform_of_fatal reports
      have together :
          Host.Together scope (session.host.fatal scope origin text).2 := by
        rcases alone with shared | ⟨_, silent⟩
        · exact Or.inl (here.trans shared)
        · rw [trace_answer, Trace.prints_upTo, performed,
            Trace.prints_append] at silent
          exact Or.inr (List.append_eq_nil_iff.mp silent).2
      rw [performed]
      exact session.host.waiting_fatal scope origin text together empty

theorem shown_answer
    (settled : session.Settled) (alone : session.Alone step) :
    (session.answer step).shown =
      spokenBy session.scope session.host.paint session.host.clock
        (session.host.aloud session.scope) step (session.answer step) := by
  rw [shown_eq_shown (waiting_of_aborted settled alone), spokenBy]
  cases replaces : step.newTarget? with
  | none => exact (heard_answer replaces alone).shown
  | some target =>
      have replaced := replaces_perform replaces alone.here
      have unspoken :
          Trace.spoken session.host.paint session.host.clock
              (session.host.aloud session.scope) (session.perform step).2.1 =
            [] := by
        apply Trace.spoken_of_kind _ _ _ _ replaced.quiet
        intro event printing
        cases event <;> first | rfl | cases printing
      rw [trace_answer, Trace.shown_upTo, Trace.spoken_upTo, replaced.shown,
        unspoken, ownPrints_of_replacing replaces, spokenOf_nil]
      rfl

end Step

/-! ## Runs -/

section Run

variable {session reached : Session} {steps : List Step}

/-- The induction is on the steps; each hands the account on to the next. -/
theorem shown_run
    (settled : session.Settled) (onOne : session.OnOneHub steps) :
    (session.run steps).flatMap Answer.shown =
      spokenDuring session.scope session.host.paint session.host.clock
        (session.host.aloud session.scope)
        (steps.zip (session.run steps)) := by
  induction steps generalizing session with
  | nil => rfl
  | cons step rest inductionHypothesis =>
      have shown := shown_answer settled onOne.alone
      cases continues : session.next step with
      | none =>
          rw [run_cons, continues]
          simp only [List.flatMap_cons, List.flatMap_nil, List.zip_cons_cons,
            List.zip_nil_right, spokenDuring, shown]
      | some after =>
          have accounts := accounts_next onOne.alone continues
          have later :=
            inductionHypothesis (settled_next continues) (onOne.next continues)
          rw [scope_next continues, accounts.paint, accounts.clock,
            accounts.aloud] at later
          rw [run_cons_of_next continues, List.flatMap_cons, shown, later,
            List.zip_cons_cons, spokenDuring]

/-- The host when a run has come to its end, also by an abort. -/
def ending (session : Session) : List Step → Host
  | [] => session.host
  | step :: rest =>
      match session.next step with
      | some after => after.ending rest
      | none => (session.perform step).1.host

/-- A target of the host is used for the prints and nothing else, as long as it is
not replaced. -/
theorem serves_ending
    {hosted : Hosted} (onOne : session.OnOneHub steps)
    (keeps : ∀ step ∈ steps, step.newTarget? = none)
    (installed : session.host.hosted? session.scope = some hosted) :
    ∃ last,
      (session.ending steps).hosted? session.scope = some last ∧
        hosted.Serves
          ((printsDuring session.scope session.scope steps
            (session.run steps)).map Prod.fst) last := by
  induction steps generalizing session hosted with
  | nil => exact ⟨hosted, installed, .unused hosted⟩
  | cons step rest inductionHypothesis =>
      have heard := heard_answer (keeps step List.mem_cons_self) onOne.alone
      obtain ⟨middle, still, serves, _⟩ := heard.hosted hosted installed
      rw [← printsOf_eq] at serves
      cases continues : session.next step with
      | none =>
          refine ⟨middle, ?_, ?_⟩
          · rw [ending, continues]
            exact still
          · rw [run_cons, continues]
            simpa [printsDuring] using serves
      | some after =>
          obtain ⟨channel, files⟩ := host_next continues session.scope
          have same : after.host.hosted? session.scope = some middle :=
            (Host.hosted?_congr channel files).trans still
          rw [← scope_next continues] at same
          obtain ⟨last, stillThen, servesThen⟩ :=
            inductionHypothesis (onOne.next continues)
              (fun later member => keeps later (List.mem_cons_of_mem _ member))
              same
          rw [scope_next continues] at stillThen servesThen
          refine ⟨last, ?_, ?_⟩
          · rw [ending, continues]
            exact stillThen
          · rw [run_cons_of_next continues]
            have whole := serves.trans servesThen
            rw [← List.map_append] at whole
            exact whole

theorem configured_reach
    (unset : session.hub.channel.isConfigured = false)
    (onOne : session.OnOneHub steps)
    (arrives : session.reach steps = some reached) :
    reached.hub.channel.isConfigured = true ↔
      Configured session.scope (steps.zip (session.run steps)) := by
  induction steps using List.reverseRecOn generalizing reached with
  | nil =>
      cases arrives
      rw [unset]
      constructor
      · rintro ⟨⟩
      · rintro ⟨before, entry, after, split, _⟩
        cases before <;> cases split
  | append_singleton early step inductionHypothesis =>
      rw [reach_append] at arrives
      obtain ⟨before, arrivesBefore, continues⟩ :=
        Option.bind_eq_some_iff.mp arrives
      obtain ⟨onOneBefore, onOneThen⟩ := onOne.split arrivesBefore
      rw [reach] at continues
      obtain ⟨after, continues, same⟩ := Option.bind_eq_some_iff.mp continues
      cases same
      have accounts := accounts_next onOneThen.alone continues
      have paired := length_run arrivesBefore
      have hub : reached.hub = reached.host.hub before.scope := by
        rw [hub, scope_next continues]
      rw [hub, accounts.configured, run_concat arrivesBefore,
        List.zip_append paired.symm, inductionHypothesis onOneBefore arrivesBefore,
        scope_reach arrivesBefore]
      exact (configured_concat session.scope _ (step, before.answer step)).symm

end Run

/-- How a session that begins without a target falls back on standard output. -/
structure FallsBack (session : Session) (steps : List Step) : Prop where
  /-- Standard output gets the lines of the console, and what is printed while the
  host has installed no target; and nothing else. -/
  account :
    (session.run steps).flatMap Answer.shown =
      spokenDuring session.scope session.host.paint session.host.clock true
        (steps.zip (session.run steps))
  /-- A target of the host gets the other prints, and no line of the console. -/
  hosted : ∀ (before during after : List Step) (reached : Session)
    (hosted : Hosted),
    steps = before ++ during ++ after →
      session.reach before = some reached →
      (∀ step ∈ during, step.newTarget? = none) →
      reached.host.hosted? session.scope = some hosted →
        ∃ last,
          (reached.ending during).hosted? session.scope = some last ∧
            hosted.Serves
              ((printsDuring session.scope session.scope during
                (reached.run during)).map Prod.fst) last
  configured : ∀ (before after : List Step) (reached : Session),
    steps = before ++ after →
      session.reach before = some reached →
        ((reached.answer .isConfigured).reply = .truth true ↔
          Configured session.scope (before.zip (session.run before)))

theorem OnOneHub.fallsBack
    {session : Session} {steps : List Step}
    (settled : session.Settled)
    (unset : session.hub.channel = Channel.unset)
    (onOne : session.OnOneHub steps) : session.FallsBack steps := by
  constructor
  · have aloud : session.host.aloud session.scope = true := by
      have channel : (session.host.hub session.scope).channel = Channel.unset :=
        unset
      rw [Host.aloud, Host.hosted?, channel]
      rfl
    rw [shown_run settled onOne, aloud]
  · rintro before during after reached hosted rfl arrives keeps installed
    rw [← scope_reach arrives] at installed ⊢
    exact
      serves_ending (onOne.initial.split arrives).2 keeps installed
  · rintro before after reached rfl arrives
    have configured := configured_reach (by rw [unset]; rfl) onOne.initial arrives
    rw [← configured, reply_answer]
    exact ⟨Reply.truth.inj, congrArg Reply.truth⟩

/-- Standard output is what a hub prints to when the host has installed no target.
It gets the lines of the console and, in between, what is printed meanwhile; whether
a print has installed it by then is to be seen by asking for that only. -/
theorem standard_output_is_the_fallback :
    (∀ (scope : Scope) (paint : Bool) (clock : String) (build : Build)
        (steps : List Step),
        (fresh scope paint clock build).OnOneHub steps →
          (fresh scope paint clock build).FallsBack steps) ∧
      ∀ (session : Session) (scope : Scope) (steps : List Step),
        List.zipWith Step.veiled steps
            ((session.targeting scope none).run steps) =
          List.zipWith Step.veiled steps
            ((session.targeting scope (some .screen)).run steps) := by
  constructor
  · intro scope paint clock build steps onOne
    apply onOne.fallsBack (settled_fresh scope paint clock build)
    cases scope <;> rfl
  · intro session scope steps
    exact (session.alike_unset scope).run steps

/-- A stream of the host between two prints on standard output, after a line of the
console. -/
def interlude : List Step :=
  [.setSink (some .console) none, .setFilter (some .all) none,
    .print (Message.text "one"),
    .emit "INFO" ⟨"f", "g", 1⟩ (Message.text "hi"),
    .setOutput (some (.stream (Stream.bare "log" .boundless))),
    .print (Message.text "two"), .setOutput none,
    .print (Message.text "three")]

/-- The session of the interlude with a target of the host, once it is done with
the console. -/
def interluded (target : Option Target) : Session :=
  let start := fresh .shared false "now" (Build.current "" "")
  { start with
      host.shared :=
        { start.host.shared with
            sink := some .console
            filter := some .all
            channel := ⟨target⟩ } }

/-- The stream takes the text at once. -/
theorem perform_print_interluded :
    (interluded (some (.stream (Stream.bare "log" .boundless)))).perform
        (.print (Message.text "two")) =
      (interluded
          (some
            (.stream
              (Stream.bare "log"
                { Device.boundless with content := bytes "two" }))),
        Trace.reading .shared
          (.formatted 1 false ::
            Trace.holding (.channel .shared)
              [.transfer (.wrote "log" (bytes "two"))]),
        .number 3) := by
  let poured := pour "log" .textUnwritten .boundless (bytes "two")
  have printed :
      (Stream.bare "log" .boundless).print (bytes "two") =
        (Stream.bare "log" poured.device, poured.transfers, poured.fault) :=
    rfl
  simp only [poured,
    pour_boundless "log" .textUnwritten (by decide : bytes "two" ≠ [])]
    at printed
  have streaming :
      (interluded
          (some (.stream (Stream.bare "log" .boundless)))).hub.channel.stream? =
        some (Stream.bare "log" .boundless) := rfl
  have text : Step.printed (Message.text "two") = bytes "two" := rfl
  rw [perform_print _ rfl, text, Channel.print_of_stream streaming printed]
  rfl

theorem perform_setOutput_interluded (device : Device) :
    (interluded (some (.stream (Stream.bare "log" device)))).perform
        (.setOutput none) =
      (interluded none,
        Trace.writing .shared
          (Trace.holding (.channel .shared)
            (.transfer (.flushed "log") ::
              (Channel.noted device.flush.2 ++
                [.transfer (.closed "log")]))),
        .nothing) := by
  have streaming :
      (interluded
          (some (.stream (Stream.bare "log" device)))).hub.channel.stream? =
        some (Stream.bare "log" device) := rfl
  rw [perform_setOutput,
    Channel.replace_of_stream streaming (Stream.flush_of_idle rfl),
    Stream.close_of_writeOut (Stream.writeOut_of_idle rfl)]
  rfl

theorem standard_output_is_the_fallback_between :
    ((fresh .shared false "now" (Build.current "" "")).run
        interlude).flatMap Answer.shown =
        bytes "onenow INFO f:1 - hi\nthree" ∧
      ∃ reached last,
        (fresh .shared false "now" (Build.current "" "")).reach
            (interlude.take 5) =
            some reached ∧
          (reached.ending [.print (Message.text "two")]).hosted? .shared =
            some last ∧
          (Hosted.stream (Stream.bare "log" .boundless)).Serves [bytes "two"]
            last := by
  obtain ⟨falls, _⟩ := standard_output_is_the_fallback
  have falls :=
    falls .shared false "now" (Build.current "" "") interlude (Or.inl rfl)
  let reached := interluded (some (.stream (Stream.bare "log" .boundless)))
  have arrives :
      (fresh .shared false "now" (Build.current "" "")).reach
          (interlude.take 5) =
        some reached := rfl
  have settles : ∀ target, (interluded target).settle = interluded target :=
    fun target => rfl
  constructor
  · have split :
        interlude =
          interlude.take 5 ++
            [.print (Message.text "two"), .setOutput none,
              .print (Message.text "three")] := rfl
    rw [falls.account]
    rw [split, run_append arrives, run, perform_print_interluded]
    simp only [settles]
    rw [run, perform_setOutput_interluded]
    rfl
  · have installed :
        reached.host.hosted? .shared =
          some (.stream (Stream.bare "log" .boundless)) := rfl
    have prints :
        (printsDuring .shared .shared [.print (Message.text "two")]
            (reached.run [.print (Message.text "two")])).map Prod.fst =
          [bytes "two"] := by
      rw [run, perform_print_interluded]
      rfl
    have keeps : ∀ step ∈ [Step.print (Message.text "two")],
        step.newTarget? = none := by
      intro step member
      rw [List.mem_singleton.mp member]
      rfl
    obtain ⟨last, still, serves⟩ :=
      falls.hosted (interlude.take 5) _ (interlude.drop 6) reached _ rfl arrives
        keeps installed
    exact ⟨reached, last, arrives, still, prints ▸ serves⟩

end Session

end SignalHub
