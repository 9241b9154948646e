import SignalHub.Proofs.Recording
import SignalHub.Proofs.Severity

/-!
# Severities in the filter and in the journal

A filter up to a severity and a journal up to its level are two bounds on the same
order.  They agree on every category that is the name of a severity; all others
the filter refuses, and the journal takes for information.
-/

namespace SignalHub

open Text

namespace Severity

/-- The names that stand for a severity; `NONE` does not. -/
def isName (category : String) : Bool :=
  ["ERROR", "WARNING", "INFO", "DEBUG", "TRACE"].contains category

theorem isName_iff {category : String} :
    isName category = true ↔
      ∃ severity : Severity, severity ≠ .none ∧ severity.name = category := by
  constructor
  · intro listed
    simp only [isName, List.contains_eq_mem, List.mem_cons, List.not_mem_nil,
      or_false, decide_eq_true_eq] at listed
    rcases listed with rfl | rfl | rfl | rfl | rfl
    · exact ⟨.error, by decide, rfl⟩
    · exact ⟨.warning, by decide, rfl⟩
    · exact ⟨.info, by decide, rfl⟩
    · exact ⟨.debug, by decide, rfl⟩
    · exact ⟨.trace, by decide, rfl⟩
  · rintro ⟨severity, present, rfl⟩
    cases severity with
    | none => exact absurd rfl present
    | _ => rfl

/-! ## The levels of severities -/

/-- How much a journal shows that shows a severity and all before it. -/
def verbosity (severity : Severity) : Verbosity :=
  match severity.level? with
  | some level => .upTo level
  | Option.none => .off

theorem exists_level {severity : Severity} (present : severity ≠ .none) :
    ∃ level, severity.level? = some level ∧ level.rank = severity.index := by
  cases severity with
  | none => exact absurd rfl present
  | _ => exact ⟨_, rfl, rfl⟩

theorem rank_verbosity (severity : Severity) :
    severity.verbosity.rank = severity.index := by
  cases severity <;> rfl

end Severity

/-! ## One category -/

namespace Filter

theorem withinMaximum_iff {maximum : Severity} {category : String} :
    withinMaximum maximum category = true ↔
      ∃ severity : Severity, severity ≠ .none ∧
        severity.index ≤ maximum.index ∧ severity.name = category := by
  constructor
  · intro accepted
    rw [withinMaximum] at accepted
    split at accepted
    · cases accepted
    · cases accepted
    · rename_i severity present found
      exact
        ⟨severity, present, of_decide_eq_true accepted,
          Severity.ofName?_eq_some_iff.mp found⟩
  · rintro ⟨severity, present, within, rfl⟩
    have found : Severity.ofName? severity.name = some severity :=
      Severity.ofName?_eq_some_iff.mpr rfl
    rw [withinMaximum, found]
    cases severity with
    | none => exact absurd rfl present
    | _ => exact decide_eq_true within

theorem withinMaximum_mono
    {maximum greater : Severity} (order : maximum.index ≤ greater.index)
    {category : String} (accepted : withinMaximum maximum category = true) :
    withinMaximum greater category = true := by
  obtain ⟨severity, present, within, named⟩ := withinMaximum_iff.mp accepted
  exact
    withinMaximum_iff.mpr
      ⟨severity, present, Nat.le_trans within order, named⟩

theorem withinMaximum_of_unnamed
    {category : String} (unnamed : Severity.isName category = false)
    (maximum : Severity) : withinMaximum maximum category = false := by
  rw [Bool.eq_false_iff] at unnamed ⊢
  intro accepted
  obtain ⟨severity, present, _, named⟩ := withinMaximum_iff.mp accepted
  exact unnamed (Severity.isName_iff.mpr ⟨severity, present, named⟩)

end Filter

namespace Severity

/-- A category with a severity of its own is shown by the journals that show this
severity. -/
theorem admits_of_named
    {category : String} (named : isName category = true)
    (maximum : Severity) :
    maximum.verbosity.admits (Record.levelOf category) =
      Filter.withinMaximum maximum category := by
  obtain ⟨severity, present, rfl⟩ := isName_iff.mp named
  obtain ⟨level, forwarded, rank⟩ := exists_level present
  rw [Record.levelOf_name forwarded, Verbosity.admits, rank, rank_verbosity,
    Bool.eq_iff_iff, decide_eq_true_iff, Filter.withinMaximum_iff]
  constructor
  · intro within
    exact ⟨severity, present, within, rfl⟩
  · rintro ⟨other, _, within, same⟩
    rw [← name_injective same]
    exact within

/-- A category without one is shown as information. -/
theorem admits_of_unnamed
    {category : String} (unnamed : isName category = false)
    (maximum : Severity) :
    maximum.verbosity.admits (Record.levelOf category) =
      decide (info.index ≤ maximum.index) := by
  have other :
      ∀ severity : Severity, severity.level?.isSome →
        severity.name ≠ category := by
    rintro severity forwarded rfl
    have named : isName severity.name = true := by
      cases severity with
      | none => cases forwarded
      | _ => rfl
    rw [named] at unnamed
    cases unnamed
  rw [Record.levelOf_of_unnamed other, Verbosity.admits, rank_verbosity]
  rfl

/-- Whether a journal up to the level of a severity shows a category. -/
theorem admits_levelOf (maximum : Severity) (category : String) :
    maximum.verbosity.admits (Record.levelOf category) =
      (Filter.withinMaximum maximum category ||
        (!isName category && decide (info.index ≤ maximum.index))) := by
  cases named : isName category with
  | true => simp [admits_of_named named]
  | false =>
      simp [admits_of_unnamed named, Filter.withinMaximum_of_unnamed named]

end Severity

/-! ## One signal -/

namespace Host

variable (host : Host) (scope : Scope)

theorem records_receive_journal (bound : Verbosity) (signal : Signal) :
    Trace.records (Trace.upTo bound (host.receive scope .journal signal).2) =
      if bound.admits (Record.levelOf signal.category) then
        [Record.ofSignal signal]
      else [] := by
  have whole :
      Trace.records (host.receive scope .journal signal).2 =
        [Record.ofSignal signal] := rfl
  rw [Trace.records_upTo, whole, List.filter_cons, List.filter_nil]
  rfl

/-- A signal on its way to a journal is recorded if the filter accepts it, and
changes nothing. -/
theorem emit_to_journal
    {filter : Filter} (sinkHere : (host.hub scope).sink = some .journal)
    (filterHere : (host.hub scope).filter = some filter)
    (category : String) (origin : Origin) (message : Message) :
    (host.emit scope category origin message).1 = host ∧
      Trace.records (host.emit scope category origin message).2 =
        if filter.accepts host.acceptance category then
          [Record.ofSignal (message.signal category origin)]
        else [] := by
  have asks := (host.asking_gate scope category).2
  have gate := gate_of_registered sinkHere filterHere category
  have quiet :
      Trace.records (.question filter category :: filter.passedOn category) =
        [] := by
    apply Trace.records_of_asking
    cases filter <;> rfl
  by_cases accepted : filter.accepts host.acceptance category = true
  · rw [if_pos accepted] at gate
    rw [emit_eq, emitReading_eq_follow gate, Trace.records_reading,
      if_pos accepted]
    refine ⟨rfl, ?_⟩
    rw [through, Trace.records_append, Trace.records_append,
      Trace.records_append, quiet]
    rfl
  · rw [if_neg accepted] at gate
    rw [emit_of_closed gate, Trace.records_reading, if_neg accepted]
    exact ⟨rfl, quiet⟩

end Host

end SignalHub
