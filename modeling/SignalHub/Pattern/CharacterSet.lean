import SignalHub.Text.Property

/-!
# Sets of characters

Sets as ranges of numbers, and the operations on them.  A set may hold ranges
that meet or overlap; what it contains is what one of them contains.
-/

namespace SignalHub.Pattern

open Text

abbrev CharacterSet := Ranges

namespace CharacterSet

/-- The numbers of characters, and those of the first 256. -/
def scalars : CharacterSet := [(0, 0xD7FF), (0xE000, 0x10FFFF)]

def firstPage : CharacterSet := [(0, 0xFF)]

def ofRange (low high : Char) : CharacterSet :=
  [(low.toNat, high.toNat)]

/-- What two ranges have in common. -/
def meet (left right : Nat × Nat) : Option (Nat × Nat) :=
  let low := max left.1 right.1
  let high := min left.2 right.2
  if low ≤ high then some (low, high) else none

def intersect (left right : CharacterSet) : CharacterSet :=
  left.flatMap fun range => right.filterMap (meet range)

/-- A range without another one. -/
def cut (hole range : Nat × Nat) : CharacterSet :=
  if hole.2 < range.1 || range.2 < hole.1 then [range]
  else
    (if range.1 < hole.1 then [(range.1, hole.1 - 1)] else []) ++
      (if hole.2 < range.2 then [(hole.2 + 1, range.2)] else [])

def subtract (set holes : CharacterSet) : CharacterSet :=
  holes.foldl (fun left hole => left.flatMap (cut hole)) set

def symmetricDifference (left right : CharacterSet) : CharacterSet :=
  subtract left right ++ subtract right left

/-- Whether all members are among the first 128 characters. -/
def isAscii (set : CharacterSet) : Bool :=
  set.all (·.2 < 0x80)

/-- A letter of the first 128 characters in the other case. -/
def otherCase (range : Nat × Nat) : CharacterSet :=
  ((meet range (0x41, 0x5A)).toList.map fun part =>
      (part.1 + 0x20, part.2 + 0x20)) ++
    ((meet range (0x61, 0x7A)).toList.map fun part =>
      (part.1 - 0x20, part.2 - 0x20))

/-- With letters of the first 128 characters in both cases. -/
def fold (set : CharacterSet) : CharacterSet :=
  set ++ set.flatMap otherCase

theorem holds_append (left right : CharacterSet) (character : Char) :
    Ranges.holds (left ++ right) character =
      (Ranges.holds left character || Ranges.holds right character) := by
  simp [Ranges.holds]

theorem meet_eq_some_iff {left right range : Nat × Nat} :
    meet left right = some range ↔
      max left.1 right.1 ≤ min left.2 right.2 ∧
        range = (max left.1 right.1, min left.2 right.2) := by
  simp only [meet]
  split
  · next fits => simp [fits, eq_comm]
  · next empty => simp [empty]

/-- A character is in an intersection if it is in both sets. -/
theorem holds_intersect (left right : CharacterSet) (character : Char) :
    Ranges.holds (intersect left right) character =
      (Ranges.holds left character && Ranges.holds right character) := by
  rw [Bool.eq_iff_iff]
  simp only [Ranges.holds, intersect, List.any_flatMap, List.any_filterMap,
    List.any_eq_true, Bool.and_eq_true, decide_eq_true_eq]
  constructor
  · rintro ⟨first, isFirst, second, isSecond, inside⟩
    cases met : meet first second with
    | none => simp [met] at inside
    | some range =>
        obtain ⟨_, rfl⟩ := meet_eq_some_iff.mp met
        simp only [met, Bool.and_eq_true, decide_eq_true_eq] at inside
        exact ⟨⟨first, isFirst, by omega⟩, ⟨second, isSecond, by omega⟩⟩
  · rintro ⟨⟨first, isFirst, _⟩, ⟨second, isSecond, _⟩⟩
    refine ⟨first, isFirst, second, isSecond, ?_⟩
    have met : meet first second =
        some (max first.1 second.1, min first.2 second.2) :=
      meet_eq_some_iff.mpr ⟨by omega, rfl⟩
    simp only [met, Bool.and_eq_true, decide_eq_true_eq]
    omega

/-- Cutting a hole into a range loses what is in the hole and nothing else. -/
theorem holds_cut (hole range : Nat × Nat) (character : Char) :
    Ranges.holds (cut hole range) character =
      (Ranges.holds [range] character && !Ranges.holds [hole] character) := by
  rw [Bool.eq_iff_iff]
  simp only [Ranges.holds, cut, List.any_cons, List.any_nil, Bool.or_false,
    Bool.and_eq_true, Bool.not_eq_true', Bool.and_eq_false_iff,
    decide_eq_true_eq, decide_eq_false_iff_not, Bool.or_eq_true]
  split
  · simp only [List.any_cons, List.any_nil, Bool.or_false, Bool.and_eq_true,
      decide_eq_true_eq]
    omega
  · simp only [List.any_append, Bool.or_eq_true]
    split <;> split <;>
      simp only [List.any_cons, List.any_nil, Bool.or_false, Bool.and_eq_true,
        decide_eq_true_eq, Bool.false_eq_true, or_false, false_or,
        false_iff] <;>
      omega

/-- A character is in a difference if it is in the set and in no hole. -/
theorem holds_subtract (set holes : CharacterSet) (character : Char) :
    Ranges.holds (subtract set holes) character =
      (Ranges.holds set character && !Ranges.holds holes character) := by
  induction holes generalizing set with
  | nil => simp [subtract, Ranges.holds]
  | cons hole rest inductionHypothesis =>
      have first : Ranges.holds (set.flatMap (cut hole)) character =
          (Ranges.holds set character &&
            !Ranges.holds [hole] character) := by
        induction set with
        | nil => simp [Ranges.holds]
        | cons range others ofOthers =>
            rw [List.flatMap_cons, holds_append, holds_cut, ofOthers,
              ← Bool.and_or_distrib_right, ← holds_append]
            rfl
      have split : Ranges.holds (hole :: rest) character =
          (Ranges.holds [hole] character ||
            Ranges.holds rest character) :=
        holds_append [hole] rest character
      rw [split, subtract, List.foldl_cons, ← subtract, inductionHypothesis,
        first, Bool.not_or, Bool.and_assoc]

end CharacterSet

end SignalHub.Pattern
