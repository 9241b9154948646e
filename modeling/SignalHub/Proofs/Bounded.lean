import SignalHub.Bounded
import SignalHub.Proofs.Text.Boundary

/-!
# What a bounded buffer holds

Whatever a formatting program offers, the buffer holds whole characters and no
more bytes than its capacity: the longest beginning of the offered text that
fits.
-/

namespace SignalHub

open Text

namespace BoundedBuffer

/-- The buffer holds these characters, and has room for them. -/
structure Holds (buffer : BoundedBuffer) (characters : List Char) : Prop where
  content : buffer.content = encode characters
  within : buffer.content.length ≤ buffer.capacity

theorem holds_ofSize (size : Nat) : (ofSize size).Holds [] :=
  ⟨rfl, Nat.zero_le _⟩

theorem Holds.text_eq
    {buffer : BoundedBuffer} {characters : List Char}
    (holds : buffer.Holds characters) :
    buffer.text = String.ofList characters := by
  rw [text, holds.content, decode, decodeChars_encode]

theorem write_of_full
    {buffer : BoundedBuffer} (full : buffer.full = true) (piece : String) :
    buffer.write piece = (buffer, false) := by
  rw [write]
  simp only [full, if_true]

/-- An open buffer takes as many characters as fit, and refuses what it had to
cut. -/
theorem write_of_open
    {buffer : BoundedBuffer} (vacant : buffer.full = false) (piece : String) :
    buffer.write piece =
      ({ buffer with
          content :=
            buffer.content ++ encode (fitting buffer.room piece.toList)
          full := !decide ((bytes piece).length ≤ buffer.room) },
        decide ((bytes piece).length ≤ buffer.room)) := by
  simp only [write, vacant, bytes, Bool.false_eq_true, if_false]
  by_cases fits : (encode piece.toList).length ≤ buffer.room
  · rw [if_pos fits, fitting_of_length_le fits]
    simp only [fits, decide_true, Bool.not_true]
  · rw [if_neg fits, take_floorBoundary_encode]
    simp only [fits, decide_false, Bool.not_false]

/-- A piece that fits is kept whole. -/
theorem write_of_fits
    {buffer : BoundedBuffer} (vacant : buffer.full = false)
    {piece : String} (fits : (bytes piece).length ≤ buffer.room) :
    buffer.write piece =
      ({ buffer with
          content := buffer.content ++ bytes piece
          full := false }, true) := by
  have whole : fitting buffer.room piece.toList = piece.toList :=
    fitting_of_length_le fits
  simp only [write_of_open vacant, whole, fits, decide_true, Bool.not_true]
  rfl

/-- A piece that does not fit is refused, and the buffer is full then. -/
theorem write_of_exceeds
    {buffer : BoundedBuffer} (vacant : buffer.full = false)
    {piece : String} (exceeds : buffer.room < (bytes piece).length) :
    (buffer.write piece).1.full = true ∧ (buffer.write piece).2 = false := by
  have refused : ¬ (bytes piece).length ≤ buffer.room :=
    Nat.not_le_of_lt exceeds
  simp [write_of_open vacant, refused]

theorem Holds.write
    {buffer : BoundedBuffer} {characters : List Char}
    (holds : buffer.Holds characters)
    (vacant : buffer.full = false) (piece : String) :
    (buffer.write piece).1.Holds
      (characters ++ fitting buffer.room piece.toList) := by
  have kept := length_encode_fitting_le buffer.room piece.toList
  have within := holds.within
  have room : buffer.room = buffer.capacity - buffer.content.length := rfl
  rw [write_of_open vacant]
  refine ⟨?_, ?_⟩
  · rw [encode_append, ← holds.content]
  · simp only [List.length_append]
    omega

/-- Once full, the buffer stays as it is. -/
theorem run_of_full
    {buffer : BoundedBuffer} (full : buffer.full = true)
    (program : Formatter) :
    (program.run BoundedBuffer.write buffer).buffer = buffer := by
  induction program with
  | finish succeeded => rfl
  | write piece next inductionHypothesis =>
      rw [Formatter.run, write_of_full full]
      exact inductionHypothesis false

end BoundedBuffer

namespace Formatter

/-- The text that a program offers to a buffer, whatever the buffer takes of
it. -/
def offered {Buffer : Type} (put : Buffer → String → Buffer × Bool) :
    Formatter → Buffer → String
  | .finish _, _ => ""
  | .write piece next, buffer =>
      let (after, took) := put buffer piece
      piece ++ (next took).offered put after

/-- The text that a program offers to an empty buffer of a size. -/
def offeredBounded (program : Formatter) (size : Nat) : String :=
  program.offered BoundedBuffer.write (BoundedBuffer.ofSize size)

end Formatter

namespace BoundedBuffer

/-- Pieces that the buffer is offered one by one fill it as their whole text
would.  The induction follows the program; as soon as a piece is cut the rest
of the run changes nothing. -/
theorem Holds.run
    {buffer : BoundedBuffer} {characters : List Char}
    (holds : buffer.Holds characters) (vacant : buffer.full = false)
    (program : Formatter) :
    (program.run BoundedBuffer.write buffer).buffer.Holds
      (characters ++
        fitting buffer.room
          (program.offered BoundedBuffer.write buffer).toList) := by
  induction program generalizing buffer characters with
  | finish succeeded =>
      simpa [Formatter.run, Formatter.offered, fitting] using holds
  | write piece next inductionHypothesis =>
      have written := holds.write vacant piece
      have room : buffer.room = buffer.capacity - buffer.content.length := rfl
      rw [Formatter.run, Formatter.offered, String.toList_append]
      by_cases fits : (encode piece.toList).length ≤ buffer.room
      · have state := write_of_fits vacant fits
        rw [state, fitting_of_length_le fits] at written
        rw [state, fitting_append_of_length_le fits, ← List.append_assoc]
        have rest := inductionHypothesis true written rfl
        simp only [BoundedBuffer.room, List.length_append] at rest ⊢
        rw [Nat.sub_add_eq] at rest
        exact rest
      · have exceeds := Nat.lt_of_not_le fits
        obtain ⟨full, _⟩ := write_of_exceeds vacant exceeds
        rw [fitting_append_of_lt_length exceeds]
        simp only [run_of_full full]
        exact written

end BoundedBuffer

namespace Formatter

theorem bounded_eq_fittingText (program : Formatter) (size : Nat) :
    program.bounded size =
      fittingText (size - 1) (program.offeredBounded size) := by
  have holds := (BoundedBuffer.holds_ofSize size).run rfl program
  rw [List.nil_append] at holds
  exact holds.text_eq

/-- A bounded text is the longest beginning of what the program offers that
leaves room for the terminator. -/
theorem longestFitting_bounded (program : Formatter) (size : Nat) :
    LongestFitting (size - 1) (program.offeredBounded size)
      (program.bounded size) := by
  rw [bounded_eq_fittingText]
  exact longestFitting_fittingText (size - 1) (program.offeredBounded size)

@[simp]
theorem offeredBounded_text (content : String) (size : Nat) :
    (text content).offeredBounded size = content := by
  simp [text, offeredBounded, offered]

/-! ## Pieces in a row -/

theorem followedBy_assoc (first second third : Formatter) :
    (first.followedBy second).followedBy third =
      first.followedBy (second.followedBy third) := by
  induction first with
  | finish succeeded => cases succeeded <;> rfl
  | write piece next inductionHypothesis =>
      simp only [followedBy, inductionHypothesis]

/-- What would follow a failure is never started. -/
theorem run_followedBy_of_failed
    {Buffer : Type} {put : Buffer → String → Buffer × Bool}
    {program : Formatter} {buffer : Buffer}
    (failed : (program.run put buffer).succeeded = false)
    (rest : Formatter) :
    (program.followedBy rest).run put buffer = program.run put buffer := by
  induction program generalizing buffer with
  | finish succeeded =>
      cases succeeded with
      | true => cases failed
      | false => rfl
  | write piece next inductionHypothesis =>
      simp only [followedBy, run, inductionHypothesis _ failed]

/-- A text ends as the buffer answers, whether or not something could
follow. -/
theorem text_followedBy_finish (content : String) :
    (text content).followedBy (.finish true) = text content := by
  simp only [text, followedBy, write.injEq, true_and]
  funext took
  cases took <;> rfl

/-- Careful pieces follow one another. -/
theorem ofPieces_cons (fails : Bool) (piece : String) (rest : List String) :
    ofPieces false fails (piece :: rest) =
      (text piece).followedBy (ofPieces false fails rest) := by
  simp only [text, followedBy, ofPieces, write.injEq, true_and]
  funext took
  cases took <;> rfl

/-- What fits of pieces that are offered one by one is what fits of their whole
text.  The induction is on the pieces; whatever is offered after a cut does not
matter. -/
theorem fitting_offered_ofPieces
    {buffer : BoundedBuffer} (vacant : buffer.full = false)
    (careless fails : Bool) (pieces : List String) :
    fitting buffer.room
        ((ofPieces careless fails pieces).offered BoundedBuffer.write
          buffer).toList =
      fitting buffer.room (String.join pieces).toList := by
  induction pieces generalizing buffer with
  | nil => rfl
  | cons piece rest inductionHypothesis =>
      have joined :
          (String.join (piece :: rest)).toList =
            piece.toList ++ (String.join rest).toList := by
        simp only [String.toList_join, List.flatMap_cons]
      rw [joined, ofPieces, offered, String.toList_append]
      by_cases fits : (encode piece.toList).length ≤ buffer.room
      · let after : BoundedBuffer :=
          { buffer with
              content := buffer.content ++ bytes piece
              full := false }
        have state : buffer.write piece = (after, true) :=
          BoundedBuffer.write_of_fits vacant fits
        have room :
            buffer.room - (encode piece.toList).length = after.room := by
          simp only [BoundedBuffer.room, List.length_append, Nat.sub_add_eq,
            after, bytes]
        rw [fitting_append_of_length_le fits,
          fitting_append_of_length_le fits, state, room]
        exact congrArg (piece.toList ++ ·) (inductionHypothesis rfl)
      · have exceeds := Nat.lt_of_not_le fits
        rw [fitting_append_of_lt_length exceeds,
          fitting_append_of_lt_length exceeds]

/-- Pieces are bounded as their whole text is. -/
theorem bounded_ofPieces
    (careless fails : Bool) (pieces : List String) (size : Nat) :
    (ofPieces careless fails pieces).bounded size =
      (text (String.join pieces)).bounded size := by
  rw [bounded_eq_fittingText, bounded_eq_fittingText, offeredBounded_text]
  have vacant : (BoundedBuffer.ofSize size).full = false := rfl
  exact
    congrArg String.ofList
      (fitting_offered_ofPieces vacant careless fails pieces)

end Formatter

end SignalHub
