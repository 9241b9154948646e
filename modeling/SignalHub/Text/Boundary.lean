import SignalHub.Text.Utf8

/-!
# Character boundaries

Where bytes of a text may be cut.  `floorBoundary` searches downwards from an
offset; `fitting` says the same on characters: the longest beginning whose
UTF-8 form has a given size.
-/

namespace SignalHub.Text

/-- A byte that only continues a sequence. -/
def isContinuation (byte : UInt8) : Bool :=
  0x80 ≤ byte && byte < 0xC0

/-- No sequence of the text runs across this offset. -/
def isBoundary (input : Bytes) (offset : Nat) : Bool :=
  offset == 0 ||
    match input[offset]? with
    | some byte => !isContinuation byte
    | none => offset == input.length

/-- The last boundary at or before an offset. -/
def floorBoundary (input : Bytes) : Nat → Nat
  | 0 => 0
  | offset + 1 =>
      if isBoundary input (offset + 1) then offset + 1
      else floorBoundary input offset

theorem floorBoundary_le (input : Bytes) (offset : Nat) :
    floorBoundary input offset ≤ offset := by
  induction offset with
  | zero => simp [floorBoundary]
  | succ offset inductionHypothesis =>
      rw [floorBoundary]
      split
      · exact Nat.le_refl _
      · omega

theorem isBoundary_floorBoundary (input : Bytes) (offset : Nat) :
    isBoundary input (floorBoundary input offset) = true := by
  induction offset with
  | zero => simp [floorBoundary, isBoundary]
  | succ offset inductionHypothesis =>
      rw [floorBoundary]
      split
      · assumption
      · exact inductionHypothesis

/-- The longest beginning of a text that takes at most `limit` bytes. -/
def fitting : Nat → List Char → List Char
  | _, [] => []
  | limit, character :: rest =>
      if character.utf8Size ≤ limit then
        character :: fitting (limit - character.utf8Size) rest
      else []

/-- `fitting` on texts. -/
def fittingText (limit : Nat) (text : String) : String :=
  String.ofList (fitting limit text.toList)

theorem length_encode_fitting_le (limit : Nat) (characters : List Char) :
    (encode (fitting limit characters)).length ≤ limit := by
  induction characters generalizing limit with
  | nil => simp [fitting]
  | cons character rest inductionHypothesis =>
      rw [fitting]
      split
      · have tailBound := inductionHypothesis (limit - character.utf8Size)
        simp only [encode_cons, List.length_append,
          String.length_utf8EncodeChar]
        omega
      · simp

end SignalHub.Text
