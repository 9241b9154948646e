import SignalHub.Category
import SignalHub.Proofs.Text.Utf8

/-!
# Texts in the order of their bytes

The order is total, and no two texts are the same in it; so texts can be sorted
in one way only.
-/

namespace SignalHub

open Text

theorem byteLe_trans {first second third : String}
    (left : byteLe first second = true)
    (right : byteLe second third = true) : byteLe first third = true := by
  have before : bytes first ≤ bytes second := of_decide_eq_true left
  have after : bytes second ≤ bytes third := of_decide_eq_true right
  exact decide_eq_true (List.le_trans before after)

theorem byteLe_total (left right : String) :
    (byteLe left right || byteLe right left) = true := by
  rw [Bool.or_eq_true]
  rcases List.le_total (bytes left) (bytes right) with before | after
  · exact Or.inl (decide_eq_true before)
  · exact Or.inr (decide_eq_true after)

theorem byteLe_antisymm {left right : String}
    (before : byteLe left right = true)
    (after : byteLe right left = true) : left = right := by
  apply bytes_injective
  exact
    List.le_antisymm (of_decide_eq_true before) (of_decide_eq_true after)

theorem pairwise_mergeSort_byteLe (texts : List String) :
    (texts.mergeSort byteLe).Pairwise fun left right =>
      byteLe left right = true := by
  apply List.pairwise_mergeSort
  · intro first second third left right
    exact byteLe_trans left right
  · exact byteLe_total

/-- However the same texts come, they are sorted into the same list. -/
theorem mergeSort_eq_of_perm
    {first second : List String} (same : first.Perm second) :
    first.mergeSort byteLe = second.mergeSort byteLe := by
  have sorted :
      (first.mergeSort byteLe).Perm (second.mergeSort byteLe) :=
    ((List.mergeSort_perm first byteLe).trans same).trans
      (List.mergeSort_perm second byteLe).symm
  exact
    sorted.eq_of_pairwise
      (fun _ _ _ _ before after => byteLe_antisymm before after)
      (pairwise_mergeSort_byteLe first) (pairwise_mergeSort_byteLe second)

end SignalHub
