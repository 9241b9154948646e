import SignalHub.Text.Property

/-!
# Trimming

What trimming leaves is determined by where the blanks are: the one part that
has no blank at either end and nothing but blanks around it.
-/

namespace SignalHub.Text

/-- The part of a sequence that is left without the blanks at its ends. -/
structure Trims (whole core : List Char) : Prop where
  around : ∃ before after,
    whole = before ++ core ++ after ∧
      before.all isBlank ∧ after.all isBlank
  first : ∀ character ∈ core.head?, isBlank character = false
  last : ∀ character ∈ core.getLast?, isBlank character = false

theorem trimStart_append
    {before core : List Char} (blank : before.all isBlank)
    (first : ∀ character ∈ core.head?, isBlank character = false) :
    trimStart (before ++ core) = core := by
  rw [trimStart, List.dropWhile_append_of_pos (List.all_eq_true.mp blank)]
  cases core with
  | nil => rfl
  | cons character rest =>
      rw [List.dropWhile_cons_of_neg]
      simp [first character rfl]

theorem exists_trimStart (characters : List Char) :
    ∃ before,
      characters = before ++ trimStart characters ∧ before.all isBlank ∧
        ∀ character ∈ (trimStart characters).head?,
          isBlank character = false := by
  refine ⟨characters.takeWhile isBlank, ?_, List.all_takeWhile, ?_⟩
  · exact List.takeWhile_append_dropWhile.symm
  · intro character here
    have stops := List.head?_dropWhile_not isBlank characters
    rw [trimStart] at here
    rw [here] at stops
    exact stops

theorem Trims.trimChars_eq
    {whole core : List Char} (trims : Trims whole core) :
    trimChars whole = core := by
  obtain ⟨before, after, rfl, leading, trailing⟩ := trims.around
  rw [trimChars]
  cases core with
  | nil =>
      have blank : (before ++ after).all isBlank := by
        rw [List.all_append, leading, trailing]
        rfl
      have nothing : trimStart (before ++ after ++ []) = [] :=
        trimStart_append blank nofun
      rw [List.append_nil] at nothing
      rw [List.append_nil, nothing]
      rfl
  | cons character rest =>
      have blank : after.reverse.all isBlank := by
        rw [List.all_reverse, trailing]
      have last :
          ∀ other ∈ (character :: rest).reverse.head?,
            isBlank other = false := by
        rw [List.head?_reverse]
        exact trims.last
      have leftover :
          trimStart (before ++ (character :: rest ++ after)) =
            character :: rest ++ after :=
        trimStart_append leading trims.first
      rw [List.append_assoc, leftover, List.reverse_append,
        trimStart_append blank last, List.reverse_reverse]

theorem trims_trimChars (whole : List Char) : Trims whole (trimChars whole) := by
  obtain ⟨before, split, leading, first⟩ := exists_trimStart whole
  obtain ⟨after, splitBack, trailing, last⟩ :=
    exists_trimStart (trimStart whole).reverse
  have rest : trimStart whole = trimChars whole ++ after.reverse := by
    rw [trimChars, ← List.reverse_append, ← splitBack, List.reverse_reverse]
  constructor
  · refine ⟨before, after.reverse, ?_, leading, ?_⟩
    · rw [List.append_assoc, ← rest]
      exact split
    · rw [List.all_reverse, trailing]
  -- What is left begins where the rest after the first blanks does.
  · intro character here
    refine first character ?_
    rw [rest, List.head?_append, here]
    rfl
  · intro character here
    refine last character ?_
    rw [trimChars, List.getLast?_reverse] at here
    exact here

end SignalHub.Text
