import SignalHub.Severity

/-!
# The severity table

Severities are told by their indices: each has one from zero to five, and no
other number is the index of any.  They are told by their names just as well.
-/

namespace SignalHub

namespace Severity

/-- The names in the order of the indices. -/
def names : List String :=
  ["NONE", "ERROR", "WARNING", "INFO", "DEBUG", "TRACE"]

theorem getElem?_names (severity : Severity) :
    names[severity.index]? = some severity.name := by
  cases severity <;> rfl

theorem ofIndex_index (severity : Severity) :
    ofIndex severity.index = .ok severity := by
  cases severity <;> rfl

theorem exists_of_index
    {index : Int} (lower : 0 ≤ index) (upper : index ≤ 5) :
    ∃ severity : Severity, (severity.index : Int) = index := by
  have cases :
      index = 0 ∨ index = 1 ∨ index = 2 ∨ index = 3 ∨ index = 4 ∨
        index = 5 := by
    omega
  rcases cases with rfl | rfl | rfl | rfl | rfl | rfl
  · exact ⟨.none, rfl⟩
  · exact ⟨.error, rfl⟩
  · exact ⟨.warning, rfl⟩
  · exact ⟨.info, rfl⟩
  · exact ⟨.debug, rfl⟩
  · exact ⟨.trace, rfl⟩

theorem exists_of_getElem?_names
    {index : Nat} {name : String} (named : names[index]? = some name) :
    ∃ severity : Severity, severity.index = index ∧ severity.name = name := by
  have listed : index < 6 := (List.getElem?_eq_some_iff.mp named).1
  have upper : (index : Int) ≤ 5 := by omega
  obtain ⟨severity, same⟩ := exists_of_index (Int.natCast_nonneg index) upper
  have equal : severity.index = index := Int.ofNat_inj.mp same
  rw [← equal, getElem?_names] at named
  exact ⟨severity, equal, Option.some.inj named⟩

theorem ofIndex_of_outside
    {index : Int} (outside : ¬ (0 ≤ index ∧ index ≤ 5)) :
    ofIndex index = .error ⟨index⟩ := by
  have absent : ofIndex? index = Option.none := by
    rw [ofIndex?, List.find?_eq_none]
    intro severity _ same
    have equal : (severity.index : Int) = index := by
      simpa using same
    have bound : severity.index ≤ 5 := by
      cases severity <;> decide
    omega
  rw [ofIndex, absent]

/-! ## There and back -/

theorem name_injective {left right : Severity}
    (same : left.name = right.name) : left = right := by
  cases left <;> cases right <;> simp_all [name]

theorem ofIndex_eq_ok_iff {index : Int} {severity : Severity} :
    ofIndex index = .ok severity ↔ (severity.index : Int) = index := by
  constructor
  · intro inside
    by_cases bounded : 0 ≤ index ∧ index ≤ 5
    · obtain ⟨found, same⟩ := exists_of_index bounded.1 bounded.2
      rw [← same, ofIndex_index] at inside
      cases inside
      exact same
    · rw [ofIndex_of_outside bounded] at inside
      cases inside
  · rintro rfl
    exact ofIndex_index severity

theorem exists_ofIndex_iff {index : Int} :
    (∃ severity, ofIndex index = .ok severity) ↔ 0 ≤ index ∧ index ≤ 5 := by
  constructor
  · rintro ⟨severity, inside⟩
    rw [← ofIndex_eq_ok_iff.mp inside]
    cases severity <;> decide
  · rintro ⟨lower, upper⟩
    obtain ⟨severity, same⟩ := exists_of_index lower upper
    exact ⟨severity, ofIndex_eq_ok_iff.mpr same⟩

theorem ofName?_eq_some_iff {text : String} {severity : Severity} :
    ofName? text = some severity ↔ severity.name = text := by
  constructor
  · intro found
    simpa using List.find?_some found
  · rintro rfl
    cases severity <;> rfl

end Severity

end SignalHub
