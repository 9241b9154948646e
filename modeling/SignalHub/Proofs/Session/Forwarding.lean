import SignalHub.Proofs.Forwarding
import SignalHub.Proofs.Session.Gate

/-!
# Two ways to bound a journal

The signals for a journal are bounded by a filter in front of it, or by the
journal's own maximum.  Over any run the two ways record the same signals among
those that have the name of a severity.
-/

namespace SignalHub

open Text

/-- What a journal records of an emission that reaches it. -/
def Emission.record (emission : Emission) : Record :=
  Record.ofSignal (emission.message.signal emission.category emission.origin)

namespace Session

/-- Signals go through a filter to a journal with a maximum. -/
structure Forwarding
    (filter : Filter) (maximum : Verbosity) (session : Session) : Prop where
  sink : session.hub.sink = some .journal
  filter : session.hub.filter = some filter
  maximum : session.maximum = maximum

section Run

variable {filter : Filter} {maximum : Verbosity} {session : Session}

/-- One emission: whether it is recorded, and that all stays as it is. -/
theorem Forwarding.step
    (forwarding : session.Forwarding filter maximum)
    {step : Step} {emission : Emission}
    (emits : step.emission? = some emission) :
    session.next step = some session.settle ∧
      (session.answer step).trace.records =
        if filter.accepts session.host.acceptance emission.category &&
            maximum.admits (Record.levelOf emission.category) then
          [emission.record]
        else [] := by
  obtain ⟨same, records⟩ :=
    session.host.emit_to_journal session.scope forwarding.sink
      forwarding.filter emission.category emission.origin emission.message
  have performed := perform_of_emission emits session
  rw [same] at performed
  refine ⟨next_of_reply performed (by decide), ?_⟩
  rw [trace_answer, performed, Trace.records_upTo, records,
    forwarding.maximum]
  by_cases accepted :
      filter.accepts session.host.acceptance emission.category = true
  · rw [if_pos accepted, accepted, Bool.true_and, List.filter_cons,
      List.filter_nil]
    rfl
  · rw [if_neg accepted, List.filter_nil, Bool.eq_false_iff.mpr accepted,
      Bool.false_and, if_neg Bool.false_ne_true]

theorem Forwarding.settle
    (forwarding : session.Forwarding filter maximum) :
    session.settle.Forwarding filter maximum := by
  constructor
  · rw [hub_settle]
    exact forwarding.sink
  · rw [hub_settle]
    exact forwarding.filter
  · exact forwarding.maximum

/-- A whole run: each emission is recorded by itself. -/
theorem Forwarding.records_run
    (forwarding : session.Forwarding filter maximum)
    {steps : List Step} {emissions : List Emission}
    (emits : steps.map Step.emission? = emissions.map some) :
    (session.run steps).map (fun answer => answer.trace.records) =
      emissions.map fun emission =>
        if filter.accepts session.host.acceptance emission.category &&
            maximum.admits (Record.levelOf emission.category) then
          [emission.record]
        else [] := by
  induction steps generalizing session emissions with
  | nil =>
      cases emissions with
      | nil => rfl
      | cons first others => cases emits
  | cons step rest inductionHypothesis =>
      cases emissions with
      | nil => cases emits
      | cons first others =>
          obtain ⟨here, later⟩ := List.cons.inj emits
          obtain ⟨continues, records⟩ := forwarding.step here
          have following := inductionHypothesis forwarding.settle later
          rw [run_cons_of_next continues, List.map_cons, List.map_cons, records]
          exact congrArg (_ :: ·) following

end Run

/-- What is recorded of the emissions that have the name of a severity, in
order. -/
def namedRecords (emissions : List Emission) (answers : List Answer) :
    List Record :=
  ((emissions.zip answers).filter fun entry =>
      Severity.isName entry.1.category).flatMap
    fun entry => entry.2.trace.records

theorem namedRecords_of_run
    {emissions : List Emission} {answers : List Answer}
    {admits : Emission → Bool}
    (recorded :
      answers.map (fun answer => answer.trace.records) =
        emissions.map fun emission =>
          if admits emission then [emission.record] else []) :
    namedRecords emissions answers =
      (emissions.filter fun emission =>
          Severity.isName emission.category && admits emission).map
        Emission.record := by
  induction emissions generalizing answers with
  | nil => rfl
  | cons emission rest inductionHypothesis =>
      cases answers with
      | nil => cases recorded
      | cons answer others =>
          obtain ⟨here, later⟩ := List.cons.inj recorded
          have following := inductionHypothesis later
          rw [namedRecords] at following
          rw [namedRecords, List.zip_cons_cons, List.filter_cons,
            List.filter_cons]
          by_cases named : Severity.isName emission.category = true
          · rw [if_pos named, named, Bool.true_and, List.flatMap_cons,
              following]
            simp only at here
            rw [here]
            by_cases shown : admits emission = true
            · rw [if_pos shown, if_pos shown]
              rfl
            · rw [if_neg shown, if_neg shown]
              rfl
          · rw [if_neg named, Bool.eq_false_iff.mpr named, Bool.false_and,
              if_neg Bool.false_ne_true, following]

/-- The severities up to a maximum, in a filter and in a journal. -/
structure Bounds (maximum : Severity) : Prop where
  accepts : ∀ acceptance category,
    (Filter.upTo maximum).accepts acceptance category = true ↔
      ∃ severity : Severity, severity ≠ .none ∧
        severity.index ≤ maximum.index ∧ severity.name = category
  monotone : ∀ greater : Severity, maximum.index ≤ greater.index →
    ∀ acceptance category,
      (Filter.upTo maximum).accepts acceptance category = true →
        (Filter.upTo greater).accepts acceptance category = true
  /-- A journal shows what the filter accepts, and from `INFO` on also what has no
  name of a severity. -/
  records : ∀ (host : Host) (scope : Scope) (signal : Signal),
    Trace.records
        (Trace.upTo maximum.verbosity
          (host.receive scope .journal signal).2) =
      if (Filter.upTo maximum).accepts host.acceptance signal.category ||
          (!Severity.isName signal.category &&
            decide (Severity.info.index ≤ maximum.index)) then
        [Record.ofSignal signal]
      else []
  /-- One run in which only the filter bounds, and one in which only the maximum
  does. -/
  runs : ∀ (filtered bounded : Session) (steps : List Step)
      (emissions : List Emission),
    filtered.Forwarding (.upTo maximum) (.upTo .trace) →
      bounded.Forwarding .all maximum.verbosity →
        steps.map Step.emission? = emissions.map some →
          namedRecords emissions (filtered.run steps) =
              namedRecords emissions (bounded.run steps) ∧
            namedRecords emissions (bounded.run steps) =
              (emissions.filter fun emission =>
                  Filter.withinMaximum maximum emission.category).map
                Emission.record

/-- Whatever bounds a run, a filter or the maximum, the named records are those of
the severities up to the bound. -/
theorem namedRecords_eq
    {filter : Filter} {bound : Verbosity} {session : Session}
    (forwarding : session.Forwarding filter bound)
    {maximum : Severity}
    (bounds : ∀ category, Severity.isName category = true →
      (filter.accepts session.host.acceptance category &&
          bound.admits (Record.levelOf category)) =
        Filter.withinMaximum maximum category)
    {steps : List Step} {emissions : List Emission}
    (emits : steps.map Step.emission? = emissions.map some) :
    namedRecords emissions (session.run steps) =
      (emissions.filter fun emission =>
          Filter.withinMaximum maximum emission.category).map
        Emission.record := by
  have recorded := namedRecords_of_run (forwarding.records_run emits)
  rw [recorded]
  congr 2
  funext emission
  cases named : Severity.isName emission.category with
  | true => rw [Bool.true_and, bounds _ named]
  | false =>
      rw [Bool.false_and, Filter.withinMaximum_of_unnamed named]

theorem bounds_of_severity (maximum : Severity) : Bounds maximum := by
  constructor
  · intro acceptance category
    exact Filter.withinMaximum_iff
  · intro greater order acceptance category accepted
    exact Filter.withinMaximum_mono order accepted
  · intro host scope signal
    rw [Host.records_receive_journal, Severity.admits_levelOf]
    rfl
  · intro filtered bounded steps emissions inFilter inJournal emits
    have first :
        namedRecords emissions (filtered.run steps) =
          (emissions.filter fun emission =>
              Filter.withinMaximum maximum emission.category).map
            Emission.record := by
      apply namedRecords_eq inFilter _ emits
      intro category named
      have shown :
          (Verbosity.upTo .trace).admits (Record.levelOf category) = true := by
        cases Record.levelOf category <;> rfl
      rw [shown, Bool.and_true]
      rfl
    have second :
        namedRecords emissions (bounded.run steps) =
          (emissions.filter fun emission =>
              Filter.withinMaximum maximum emission.category).map
            Emission.record := by
      apply namedRecords_eq inJournal _ emits
      intro category named
      rw [Severity.admits_of_named named]
      exact Bool.true_and _
    exact ⟨first.trans second.symm, second⟩

/-- A severity bounds a filter and a journal alike, and is told by its name as well
as by its index. -/
theorem severities_bound_alike :
    (∀ maximum : Severity, Bounds maximum) ∧
      (∀ index : Int,
        ((∃ severity, Severity.ofIndex index = .ok severity) ↔
            0 ≤ index ∧ index ≤ 5) ∧
          ∀ severity, Severity.ofIndex index = .ok severity ↔
            (severity.index : Int) = index) ∧
        ∀ name severity, Severity.ofName? name = some severity ↔
          severity.name = name := by
  refine ⟨bounds_of_severity, ?_, ?_⟩
  · intro index
    exact
      ⟨Severity.exists_ofIndex_iff, fun _ => Severity.ofIndex_eq_ok_iff⟩
  · intro name severity
    exact Severity.ofName?_eq_some_iff

/-- An error and a debug message among categories without a severity, one of which
is nearly a name. -/
theorem severities_bound_alike_mixed :
    ∃ filtered bounded,
      (fresh .own false "" (Build.current "" "")).reach
          [.setMaximum (.upTo .trace), .setSink (some .journal) none,
            .setFilter (some (.upTo .info)) none] = some filtered ∧
        (fresh .own false "" (Build.current "" "")).reach
            [.setMaximum (.upTo .info), .setSink (some .journal) none,
              .setFilter (some .all) none] = some bounded ∧
          ∀ origin : Origin,
            let emissions : List Emission :=
              ["error", "DEBUG", "GC", "ERROR", "NONE"].map fun category =>
                ⟨category, origin, Message.text "hot"⟩
            let steps :=
              emissions.map fun emission =>
                Step.emit emission.category emission.origin emission.message
            namedRecords emissions (filtered.run steps) =
                namedRecords emissions (bounded.run steps) ∧
              namedRecords emissions (filtered.run steps) =
                [⟨.error, "vm", "[ERROR] hot", some origin⟩] := by
  let registered (filter : Filter) (maximum : Verbosity) : Session :=
    { fresh .own false "" (Build.current "" "") with
        host :=
          { Host.fresh false "" with
              own :=
                { Hub.fresh with
                    sink := some .journal
                    filter := some filter } }
        maximum }
  let filtered := registered (.upTo .info) (.upTo .trace)
  let bounded := registered .all (.upTo .info)
  refine ⟨filtered, bounded, rfl, rfl, ?_⟩
  intro origin emissions steps
  obtain ⟨same, exactly⟩ :=
    (severities_bound_alike.1 .info).runs filtered bounded steps emissions
      ⟨rfl, rfl, rfl⟩ ⟨rfl, rfl, rfl⟩ rfl
  refine ⟨same, ?_⟩
  rw [same, exactly]
  rfl

end Session

end SignalHub
