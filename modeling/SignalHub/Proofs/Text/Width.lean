import SignalHub.Text.Width

/-!
# Printable characters

A printable character of ASCII joins with nothing that has been read, so a text of
such characters is as wide as it is long.
-/

namespace SignalHub.Text

/-- From the blank to the tilde. -/
def isPrintable (character : Char) : Bool :=
  within character 0x20 0x7E

theorem Following.advance_printable
    {character : Char} (printable : isPrintable character = true) :
    Following.plain.advance character = (1, .plain) := by
  simp only [isPrintable, within, Bool.and_eq_true, decide_eq_true_eq]
    at printable
  obtain ⟨low, high⟩ := printable
  have ascii : character.toNat ≤ 0xA0 := by omega
  have visible : character ≠ '\n' := by
    rintro rfl
    exact absurd low (by decide)
  have disobeyed : Following.plain.obey character = none := rfl
  have free :
      joinFree Following.plain.unselected character = (1, .plain) := by
    rw [joinFree, if_pos ascii, narrow, if_neg (by simp [plain, unselected]),
      if_neg visible]
    rfl
  simp only [advance, disobeyed, free]
  rfl

theorem measure_of_printable
    {line : List Char}
    (printable : ∀ character ∈ line, isPrintable character = true) :
    measure (0, .plain) line = (line.length, .plain) := by
  induction line with
  | nil => rfl
  | cons character rest inductionHypothesis =>
      obtain ⟨here, later⟩ := List.forall_mem_cons.mp printable
      have read := inductionHypothesis later
      simp only [measure, List.foldr_cons] at read ⊢
      rw [read]
      simp only [Following.advance_printable here, List.length_cons]

theorem width_of_printable
    {line : List Char}
    (printable : ∀ character ∈ line, isPrintable character = true) :
    width line = line.length := by
  rw [width, measure_of_printable printable]
  rfl

end SignalHub.Text
