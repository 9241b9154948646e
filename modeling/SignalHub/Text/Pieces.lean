/-!
# Pieces between separators

Cutting a sequence at every separator, and looking for one sequence in
another.
-/

namespace SignalHub.Text

variable {Symbol : Type} [DecidableEq Symbol]

/-- The pieces of a sequence between separators: always at least one, and one
more than there are separators. -/
def pieces (separator : Symbol) : List Symbol → List (List Symbol)
  | [] => [[]]
  | symbol :: rest =>
      if symbol = separator then [] :: pieces separator rest
      else
        match pieces separator rest with
        | [] => [[symbol]]
        | piece :: others => (symbol :: piece) :: others

theorem pieces_ne_nil (separator : Symbol) (symbols : List Symbol) :
    pieces separator symbols ≠ [] := by
  cases symbols with
  | nil => simp [pieces]
  | cons symbol rest =>
      rw [pieces]
      split
      · simp
      · split <;> simp

/-- The pieces of a text as texts. -/
def piecesOf (separator : Char) (text : String) : List String :=
  (pieces separator text.toList).map String.ofList

end SignalHub.Text
