import SignalHub.Proofs.Text.Utf8
import SignalHub.Text.Boundary

/-!
# Cutting between characters

The search for a boundary on bytes and the choice of characters that fit agree:
the last boundary within a limit is where the longest fitting beginning ends.
-/

namespace SignalHub.Text

/-! ## The longest beginning that fits -/

/-- The longest beginning of a text that takes at most `limit` bytes. -/
structure LongestFitting (limit : Nat) (text cut : String) : Prop where
  beginning : cut.toList <+: text.toList
  fits : (bytes cut).length ≤ limit
  longest : ∀ other : String,
    other.toList <+: text.toList → (bytes other).length ≤ limit →
      other.toList <+: cut.toList

theorem fitting_prefix_self (limit : Nat) (characters : List Char) :
    fitting limit characters <+: characters := by
  induction characters generalizing limit with
  | nil => exact List.prefix_rfl
  | cons character rest inductionHypothesis =>
      rw [fitting]
      split
      · exact
          (List.prefix_cons_inj character).mpr
            (inductionHypothesis (limit - character.utf8Size))
      · exact List.nil_prefix

theorem fitting_of_length_le
    {limit : Nat} {characters : List Char}
    (fits : (encode characters).length ≤ limit) :
    fitting limit characters = characters := by
  induction characters generalizing limit with
  | nil => rfl
  | cons character rest inductionHypothesis =>
      rw [encode_cons, List.length_append, String.length_utf8EncodeChar] at fits
      rw [fitting, if_pos (by omega), inductionHypothesis (by omega)]

/-- Where the choice ends although more was offered, the next character does
not fit any more. -/
theorem fitting_stops
    (limit : Nat) (characters : List Char) :
    fitting limit characters = characters ∨
      ∃ next rest,
        characters = fitting limit characters ++ next :: rest ∧
          limit <
            (encode (fitting limit characters)).length + next.utf8Size := by
  induction characters generalizing limit with
  | nil => exact Or.inl rfl
  | cons character rest inductionHypothesis =>
      rw [fitting]
      split
      · rcases inductionHypothesis (limit - character.utf8Size) with
          whole | ⟨next, others, split, beyond⟩
        · rw [whole]
          exact Or.inl rfl
        · refine Or.inr ⟨next, others, ?_, ?_⟩
          · rw [List.cons_append, ← split]
          · rw [encode_cons, List.length_append,
              String.length_utf8EncodeChar]
            omega
      · refine Or.inr ⟨character, rest, rfl, ?_⟩
        rw [encode_nil, List.length_nil]
        omega

theorem prefix_fitting
    {limit : Nat} {characters other : List Char}
    (beginning : other <+: characters)
    (fits : (encode other).length ≤ limit) :
    other <+: fitting limit characters := by
  induction characters generalizing limit other with
  | nil =>
      rw [List.prefix_nil.mp beginning]
      exact List.nil_prefix
  | cons character rest inductionHypothesis =>
      cases other with
      | nil => exact List.nil_prefix
      | cons first others =>
          obtain ⟨rfl, tail⟩ := List.cons_prefix_cons.mp beginning
          rw [encode_cons, List.length_append,
            String.length_utf8EncodeChar] at fits
          rw [fitting, if_pos (by omega)]
          exact
            (List.prefix_cons_inj first).mpr
              (inductionHypothesis tail (by omega))

/-- What follows a part that fits gets the room that the part leaves. -/
theorem fitting_append_of_length_le
    {limit : Nat} {first : List Char}
    (fits : (encode first).length ≤ limit) (second : List Char) :
    fitting limit (first ++ second) =
      first ++ fitting (limit - (encode first).length) second := by
  induction first generalizing limit with
  | nil => rfl
  | cons character rest inductionHypothesis =>
      rw [encode_cons, List.length_append, String.length_utf8EncodeChar] at fits
      rw [List.cons_append, fitting, if_pos (by omega),
        inductionHypothesis (by omega), encode_cons, List.length_append,
        String.length_utf8EncodeChar, Nat.sub_add_eq]
      rfl

/-- What follows a part that does not fit is not looked at. -/
theorem fitting_append_of_lt_length
    {limit : Nat} {first : List Char}
    (exceeds : limit < (encode first).length) (second : List Char) :
    fitting limit (first ++ second) = fitting limit first := by
  induction first generalizing limit with
  | nil => exact absurd exceeds (Nat.not_lt_zero limit)
  | cons character rest inductionHypothesis =>
      rw [encode_cons, List.length_append,
        String.length_utf8EncodeChar] at exceeds
      rw [List.cons_append, fitting, fitting]
      split
      · rw [inductionHypothesis (by omega)]
      · rfl

theorem longestFitting_fittingText (limit : Nat) (text : String) :
    LongestFitting limit text (fittingText limit text) := by
  refine ⟨?_, ?_, ?_⟩
  · rw [fittingText, String.toList_ofList]
    exact fitting_prefix_self limit text.toList
  · rw [bytes, fittingText, String.toList_ofList]
    exact length_encode_fitting_le limit text.toList
  · intro other beginning fits
    rw [fittingText, String.toList_ofList]
    exact prefix_fitting beginning fits

/-- A text that fits is not cut. -/
theorem LongestFitting.eq_of_fits
    {limit : Nat} {text cut : String}
    (longest : LongestFitting limit text cut)
    (fits : (bytes text).length ≤ limit) :
    cut = text := by
  have whole : text.toList <+: cut.toList :=
    longest.longest text List.prefix_rfl fits
  have same : cut.toList = text.toList :=
    List.IsPrefix.eq_of_length_le longest.beginning whole.length_le
  exact String.toList_injective same

/-! ## The search for a boundary -/

theorem isContinuation_eq_true
    {byte : UInt8} (low : 0x80 ≤ byte.toNat) (high : byte.toNat < 0xC0) :
    isContinuation byte = true := by
  simp [isContinuation, UInt8.le_iff_toNat_le, UInt8.lt_iff_toNat_lt, low,
    high]

theorem isContinuation_eq_false
    {byte : UInt8} (outside : byte.toNat < 0x80 ∨ 0xC0 ≤ byte.toNat) :
    isContinuation byte = false := by
  simp only [isContinuation, UInt8.le_iff_toNat_le, UInt8.lt_iff_toNat_lt,
    UInt8.reduceToNat, Bool.and_eq_false_iff, decide_eq_false_iff_not]
  omega

/-- Exactly the first byte of a character is no continuation. -/
theorem utf8EncodeChar_continuations (character : Char) :
    ∃ first others,
      String.utf8EncodeChar character = first :: others ∧
        isContinuation first = false ∧
        ∀ byte, byte ∈ others → isContinuation byte = true := by
  rcases utf8EncodeChar_shape character with
    ⟨first, shape, lead, small⟩ |
    ⟨first, second, shape, lead, last, low, high⟩ |
    ⟨first, second, third, shape, lead, middle, last, low, high⟩ |
    ⟨first, second, third, fourth, shape, lead, inner, middle, last, low, high⟩
  · refine ⟨first, [], shape, isContinuation_eq_false (by omega), ?_⟩
    intro byte member
    exact absurd member List.not_mem_nil
  · refine ⟨first, [second], shape, isContinuation_eq_false (by omega), ?_⟩
    intro byte member
    rw [List.mem_singleton.mp member]
    exact isContinuation_eq_true (by omega) (by omega)
  · refine
      ⟨first, [second, third], shape, isContinuation_eq_false (by omega), ?_⟩
    intro byte member
    simp only [List.mem_cons, List.not_mem_nil, or_false] at member
    rcases member with rfl | rfl <;>
      exact isContinuation_eq_true (by omega) (by omega)
  · refine
      ⟨first, [second, third, fourth], shape,
        isContinuation_eq_false (by omega), ?_⟩
    intro byte member
    simp only [List.mem_cons, List.not_mem_nil, or_false] at member
    rcases member with rfl | rfl | rfl <;>
      exact isContinuation_eq_true (by omega) (by omega)

theorem isBoundary_length (input : Bytes) :
    isBoundary input input.length = true := by
  simp [isBoundary]

theorem isBoundary_beyond
    {input : Bytes} {offset : Nat} (beyond : input.length < offset) :
    isBoundary input offset = false := by
  have positive : offset ≠ 0 := by omega
  have different : offset ≠ input.length := by omega
  simp [isBoundary, List.getElem?_eq_none (Nat.le_of_lt beyond), positive,
    different]

theorem isBoundary_encode_append
    (front : List Char) (next : Char) (rest : List Char) :
    isBoundary (encode (front ++ next :: rest)) (encode front).length =
      true := by
  obtain ⟨first, others, shape, lead, _⟩ := utf8EncodeChar_continuations next
  simp [isBoundary, shape, lead]

/-- Inside of a character there is no boundary. -/
theorem isBoundary_inside
    (front : List Char) (next : Char) (rest : List Char) {offset : Nat}
    (after : (encode front).length < offset)
    (before : offset < (encode front).length + next.utf8Size) :
    isBoundary (encode (front ++ next :: rest)) offset = false := by
  obtain ⟨first, others, shape, _, continued⟩ :=
    utf8EncodeChar_continuations next
  obtain ⟨distance, position⟩ :=
    Nat.exists_eq_add_of_le' (Nat.sub_pos_of_lt after)
  have size := String.length_utf8EncodeChar next
  rw [shape, List.length_cons] at size
  have within : distance < others.length := by omega
  have found :
      (encode (front ++ next :: rest))[offset]? = some others[distance] := by
    rw [encode_append, encode_cons, shape,
      List.getElem?_append_right (Nat.le_of_lt after), position,
      List.cons_append, List.getElem?_cons_succ,
      List.getElem?_append_left within, List.getElem?_eq_getElem within]
  have positive : offset ≠ 0 := by omega
  have inside := continued _ (List.getElem_mem within)
  rw [isBoundary, found]
  simp [inside, positive]

theorem floorBoundary_eq
    {input : Bytes} {boundary offset : Nat}
    (holds : isBoundary input boundary = true)
    (within : boundary ≤ offset)
    (last : ∀ other, boundary < other → other ≤ offset →
      isBoundary input other = false) :
    floorBoundary input offset = boundary := by
  induction offset with
  | zero =>
      rw [floorBoundary]
      omega
  | succ offset inductionHypothesis =>
      rw [floorBoundary]
      by_cases here : boundary = offset + 1
      · rw [← here, if_pos holds]
      · rw [if_neg (by simp [last (offset + 1) (by omega) (by omega)])]
        exact
          inductionHypothesis (by omega)
            (fun other after before => last other after (by omega))

/-- The last boundary within a limit ends the longest beginning that fits. -/
theorem floorBoundary_encode (limit : Nat) (characters : List Char) :
    floorBoundary (encode characters) limit =
      (encode (fitting limit characters)).length := by
  apply floorBoundary_eq
  · rcases fitting_stops limit characters with whole | ⟨next, rest, split, _⟩
    · rw [whole]
      exact isBoundary_length _
    · have boundary :=
        isBoundary_encode_append (fitting limit characters) next rest
      rwa [← split] at boundary
  · exact length_encode_fitting_le limit characters
  · intro other after before
    rcases fitting_stops limit characters with
      whole | ⟨next, rest, split, beyond⟩
    · rw [whole] at after
      exact isBoundary_beyond after
    · have inside :=
        isBoundary_inside (fitting limit characters) next rest after (by omega)
      rwa [← split] at inside

theorem take_floorBoundary_encode (limit : Nat) (characters : List Char) :
    (encode characters).take (floorBoundary (encode characters) limit) =
      encode (fitting limit characters) := by
  obtain ⟨rest, split⟩ := fitting_prefix_self limit characters
  have whole :
      encode characters = encode (fitting limit characters) ++ encode rest := by
    rw [← encode_append, split]
  rw [floorBoundary_encode, whole, List.take_left]

end SignalHub.Text
