import SignalHub.Text.Pieces

/-!
# Parts joined by separators

The pieces of a sequence are the one way to write it as parts without
separators, joined by separators.
-/

namespace SignalHub.Text

variable {Symbol : Type} [DecidableEq Symbol] {separator : Symbol}
  {symbols piece : List Symbol}

/-- A sequence consists of parts without separators, one of which is the piece,
and of one separator between each two of them. -/
def StandsBetween (separator : Symbol) (symbols piece : List Symbol) : Prop :=
  ∃ parts : List (List Symbol),
    [separator].intercalate parts = symbols ∧
      (∀ part ∈ parts, separator ∉ part) ∧ piece ∈ parts

theorem pieces_eq_splitOn (separator : Symbol) (symbols : List Symbol) :
    pieces separator symbols = symbols.splitOn separator := by
  induction symbols with
  | nil => rfl
  | cons symbol rest inductionHypothesis =>
      rw [pieces, List.splitOn_cons_eq_if_modifyHead, ← inductionHypothesis]
      by_cases same : symbol = separator
      · simp [same]
      · rw [if_neg same, if_neg (by simpa using same)]
        cases split : pieces separator rest with
        | nil => exact absurd split (pieces_ne_nil separator rest)
        | cons first others => rfl

theorem not_mem_of_mem_pieces
    (found : piece ∈ pieces separator symbols) : separator ∉ piece := by
  induction symbols generalizing piece with
  | nil => simp_all [pieces]
  | cons symbol rest inductionHypothesis =>
      rw [pieces] at found
      split at found
      · rcases List.mem_cons.mp found with rfl | later
        · exact List.not_mem_nil
        · exact inductionHypothesis later
      · next different =>
          cases split : pieces separator rest with
          | nil => exact absurd split (pieces_ne_nil separator rest)
          | cons first others =>
              simp only [split] at found inductionHypothesis
              rcases List.mem_cons.mp found with rfl | later
              · have free := inductionHypothesis List.mem_cons_self
                simp [Ne.symm different, free]
              · exact inductionHypothesis (List.mem_cons_of_mem _ later)

theorem mem_pieces :
    piece ∈ pieces separator symbols ↔
      StandsBetween separator symbols piece := by
  constructor
  · intro found
    refine ⟨pieces separator symbols, ?_, ?_, found⟩
    · rw [pieces_eq_splitOn]
      exact List.intercalate_splitOn separator
    · intro part member
      exact not_mem_of_mem_pieces member
  · rintro ⟨parts, rfl, free, member⟩
    rw [pieces_eq_splitOn,
      List.splitOn_intercalate separator free (List.ne_nil_of_mem member)]
    exact member

/-- A separator ends the last piece before it and begins the first one after
it. -/
theorem pieces_append_separator (left right : List Symbol) :
    pieces separator (left ++ separator :: right) =
      pieces separator left ++ pieces separator right := by
  simp only [pieces_eq_splitOn]
  exact List.splitOn_append_cons_self left right

/-- Without a separator there is one piece. -/
theorem pieces_of_not_mem
    (free : separator ∉ symbols) : pieces separator symbols = [symbols] := by
  rw [pieces_eq_splitOn]
  exact List.splitOn_eq_singleton free

end SignalHub.Text
