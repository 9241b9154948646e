import SignalHub.Proofs.Bounded

/-!
# Pieces offered one by one

What a bounded buffer holds in the end is cut from the whole text that it was
offered, in whatever pieces that text came and whatever the program made of the
answers.  A piece is taken exactly if the text up to its end is within the
bound.
-/

namespace SignalHub

open Text

/-- A piece that a program offers: whether it was taken, and the buffer
then. -/
structure Offer (Buffer : Type) where
  piece : String
  taken : Bool
  after : Buffer

/-- The text of pieces that were offered one after the other. -/
def joined {Buffer : Type} (offers : List (Offer Buffer)) : String :=
  String.join (offers.map Offer.piece)

namespace Formatter

/-- All that a program offers to a buffer, in order. -/
def offers {Buffer : Type} (put : Buffer → String → Buffer × Bool) :
    Formatter → Buffer → List (Offer Buffer)
  | .finish _, _ => []
  | .write piece next, buffer =>
      let (after, took) := put buffer piece
      ⟨piece, took, after⟩ :: (next took).offers put after

/-- All that a program offers to an empty buffer of a size. -/
def offersBounded (program : Formatter) (size : Nat) :
    List (Offer BoundedBuffer) :=
  program.offers BoundedBuffer.write (BoundedBuffer.ofSize size)

section Offers

variable {Buffer : Type} (put : Buffer → String → Buffer × Bool)

theorem offers_write
    (piece : String) (next : Bool → Formatter) (buffer : Buffer) :
    (write piece next).offers put buffer =
      ⟨piece, (put buffer piece).2, (put buffer piece).1⟩ ::
        (next (put buffer piece).2).offers put (put buffer piece).1 := rfl

theorem joined_offers (program : Formatter) (buffer : Buffer) :
    joined (program.offers put buffer) = program.offered put buffer := by
  induction program generalizing buffer with
  | finish succeeded => rfl
  | write piece next inductionHypothesis =>
      rw [offers_write, offered, joined, List.map_cons, String.join_cons]
      exact congrArg (piece ++ ·) (inductionHypothesis _ _)

theorem taken_run (program : Formatter) (buffer : Buffer) :
    (program.run put buffer).taken =
      (program.offers put buffer).countP Offer.taken := by
  induction program generalizing buffer with
  | finish succeeded => rfl
  | write piece next inductionHypothesis =>
      rw [run, offers_write, List.countP_cons]
      exact congrArg (· + _) (inductionHypothesis _ _)

end Offers

end Formatter

/-! ## What a buffer still takes -/

theorem length_bytes_append (left right : String) :
    (bytes (left ++ right)).length =
      (bytes left).length + (bytes right).length := by
  simp only [bytes, String.toList_append, encode_append, List.length_append]

namespace BoundedBuffer

/-- So many bytes more are taken. -/
def Admits (buffer : BoundedBuffer) (count : Nat) : Prop :=
  buffer.full = false ∧ count ≤ buffer.room

theorem admits_ofSize {size count : Nat} :
    (ofSize size).Admits count ↔ count ≤ size - 1 :=
  and_iff_right rfl

variable {buffer : BoundedBuffer} {piece : String}

theorem not_admits_of_full
    (full : buffer.full = true) (count : Nat) : ¬ buffer.Admits count := by
  rintro ⟨vacant, _⟩
  rw [full] at vacant
  cases vacant

theorem taken_write :
    (buffer.write piece).2 = true ↔ buffer.Admits (bytes piece).length := by
  cases state : buffer.full with
  | true =>
      rw [write_of_full state]
      exact iff_of_false Bool.false_ne_true (not_admits_of_full state _)
  | false =>
      rw [write_of_open state, decide_eq_true_iff]
      exact (and_iff_right state).symm

/-- What is taken after a piece is what could have been taken together with
it. -/
theorem admits_write {count : Nat} :
    (buffer.write piece).1.Admits count ↔
      buffer.Admits ((bytes piece).length + count) := by
  cases state : buffer.full with
  | true =>
      rw [write_of_full state]
      exact
        iff_of_false (not_admits_of_full state _) (not_admits_of_full state _)
  | false =>
      by_cases fits : (bytes piece).length ≤ buffer.room
      · have left := Nat.sub_add_eq buffer.capacity buffer.content.length
        rw [write_of_fits state fits]
        simp only [Admits, room, List.length_append, left, state,
          true_and] at fits ⊢
        omega
      · have exceeds := Nat.lt_of_not_le fits
        have beyond : ¬ buffer.Admits ((bytes piece).length + count) := by
          rintro ⟨_, within⟩
          omega
        exact
          iff_of_false
            (not_admits_of_full (write_of_exceeds state exceeds).1 count)
            beyond

theorem full_of_refused
    (refused : (buffer.write piece).2 = false) :
    (buffer.write piece).1.full = true := by
  cases state : buffer.full with
  | true =>
      rw [write_of_full state]
      exact state
  | false =>
      by_cases fits : (bytes piece).length ≤ buffer.room
      · rw [write_of_fits state fits] at refused
        cases refused
      · exact (write_of_exceeds state (Nat.lt_of_not_le fits)).1

/-- A full buffer refuses whatever it is offered, and stays as it is. -/
theorem offers_of_full
    (full : buffer.full = true) (program : Formatter) :
    ∀ offer ∈ program.offers write buffer,
      offer.taken = false ∧ offer.after = buffer := by
  induction program with
  | finish succeeded => exact List.forall_mem_nil _
  | write piece next inductionHypothesis =>
      rw [Formatter.offers_write, write_of_full full]
      exact List.forall_mem_cons.mpr ⟨⟨rfl, rfl⟩, inductionHypothesis false⟩

section Split

variable {before after : List (Offer BoundedBuffer)}
  {offer : Offer BoundedBuffer}

/-- The induction is on the program: what one piece leaves is what all later
ones have to share. -/
theorem taken_offers
    {program : Formatter}
    (split : program.offers write buffer = before ++ offer :: after) :
    offer.taken = true ↔
      buffer.Admits (bytes (joined (before ++ [offer]))).length := by
  induction program generalizing buffer before with
  | finish succeeded => cases before <;> cases split
  | write piece next inductionHypothesis =>
      rw [Formatter.offers_write] at split
      cases before with
      | nil =>
          cases split
          rw [List.nil_append, joined, List.map_singleton, String.join_cons,
            String.join_nil, String.append_empty]
          exact taken_write
      | cons first rest =>
          obtain ⟨rfl, later⟩ := List.cons.inj split
          rw [inductionHypothesis _ later, admits_write, List.cons_append,
            joined, joined, List.map_cons, String.join_cons,
            length_bytes_append]

theorem refused_offers
    {program : Formatter}
    (split : program.offers write buffer = before ++ offer :: after)
    (refused : offer.taken = false) :
    ∀ later ∈ after, later.taken = false ∧ later.after = offer.after := by
  induction program generalizing buffer before with
  | finish succeeded => cases before <;> cases split
  | write piece next inductionHypothesis =>
      rw [Formatter.offers_write] at split
      cases before with
      | nil =>
          cases split
          exact offers_of_full (full_of_refused refused) _
      | cons first rest =>
          exact inductionHypothesis _ (List.cons.inj split).2

end Split

end BoundedBuffer

/-! ## Pieces in a row -/

namespace Formatter

theorem taken_of_full
    {buffer : BoundedBuffer} (full : buffer.full = true)
    (program : Formatter) :
    (program.run BoundedBuffer.write buffer).taken = 0 := by
  rw [taken_run, List.countP_eq_zero]
  intro offer member
  rw [(BoundedBuffer.offers_of_full full program offer member).1]
  exact Bool.false_ne_true

/-- Whoever goes on after a refusal gets no more pieces taken than whoever gives
up. -/
theorem taken_ofPieces
    (fails failsToo : Bool) (pieces : List String)
    (buffer : BoundedBuffer) :
    ((ofPieces true fails pieces).run BoundedBuffer.write buffer).taken =
      ((ofPieces false failsToo pieces).run BoundedBuffer.write
        buffer).taken := by
  induction pieces generalizing buffer with
  | nil => rfl
  | cons piece rest inductionHypothesis =>
      rw [ofPieces, ofPieces, run, run]
      cases took : (buffer.write piece).2 with
      | true =>
          simp only [took, Bool.true_or, if_true]
          rw [inductionHypothesis]
      | false =>
          have full := BoundedBuffer.full_of_refused took
          simp only [took, Bool.false_or, Bool.false_eq_true, if_false,
            if_true]
          rw [taken_of_full full, taken_of_full full]

theorem runBounded?_of_allocatable
    {size : Nat}
    (allocatable :
      (BoundedBuffer.ofSize size).capacity ≤ BoundedBuffer.largestCapacity)
    (program : Formatter) :
    program.runBounded? size = some (program.runBounded size) :=
  if_pos allocatable

/-- A run ended as if its whole text had been cut at a limit. -/
structure Cuts
    (limit : Nat) (offers : List (Offer BoundedBuffer))
    (result : Formatted BoundedBuffer) : Prop where
  text : LongestFitting limit (joined offers) result.buffer.text
  taken : ∀ before offer after,
    offers = before ++ offer :: after →
      (offer.taken = true ↔
        (bytes (joined (before ++ [offer]))).length ≤ limit)
  /-- Nothing is taken or added any more after a refusal. -/
  refused : ∀ before offer after,
    offers = before ++ offer :: after → offer.taken = false →
      ∀ later ∈ after, later.taken = false ∧ later.after = offer.after
  count : result.taken = offers.countP Offer.taken

theorem cuts_runBounded (program : Formatter) (size : Nat) :
    Cuts (size - 1) (program.offersBounded size)
      (program.runBounded size) := by
  constructor
  · rw [offersBounded, joined_offers]
    exact program.longestFitting_bounded size
  · intro before offer after split
    rw [BoundedBuffer.taken_offers split, BoundedBuffer.admits_ofSize]
  · intro before offer after split refused
    exact BoundedBuffer.refused_offers split refused
  · exact taken_run BoundedBuffer.write program _

/-- At a size, formatting is cutting the whole text. -/
structure Truncates (size : Nat) : Prop where
  run : ∀ program : Formatter, ∃ result,
    program.runBounded? size = some result ∧
      Cuts (size - 1) (program.offersBounded size) result
  /-- Only the text counts, not its pieces. -/
  whole : ∀ program other : Formatter,
    joined (program.offersBounded size) = joined (other.offersBounded size) →
      program.bounded size = other.bounded size
  joins : ∀ (careless fails carelessToo failsToo : Bool)
      (pieces others : List String),
    String.join pieces = String.join others →
      (ofPieces careless fails pieces).bounded size =
        (ofPieces carelessToo failsToo others).bounded size
  /-- Giving up at a refusal or going on comes to the same. -/
  careless : ∀ (fails failsToo : Bool) (pieces : List String),
    ((ofPieces true fails pieces).runBounded size).taken =
      ((ofPieces false failsToo pieces).runBounded size).taken

/-- Whatever a program offers to a buffer that there can be, and however it ends,
its text is cut at the last character that fits. -/
theorem bounded_formatting_truncates
    {size : Nat}
    (allocatable :
      (BoundedBuffer.ofSize size).capacity ≤
        BoundedBuffer.largestCapacity) :
    Truncates size := by
  constructor
  · intro program
    exact
      ⟨_, runBounded?_of_allocatable allocatable program,
        cuts_runBounded program size⟩
  · intro program other same
    rw [bounded_eq_fittingText, bounded_eq_fittingText, offeredBounded,
      offeredBounded, ← joined_offers, ← joined_offers]
    exact congrArg (fittingText (size - 1)) same
  · intro careless fails carelessToo failsToo pieces others same
    rw [bounded_ofPieces, bounded_ofPieces, same]
  · intro fails failsToo pieces
    exact taken_ofPieces fails failsToo pieces _

/-- A cut in front of a character of two bytes leaves one byte free, and a program
that goes on all the same gets nothing into it. -/
theorem bounded_formatting_truncates_careless :
    ∃ result,
      (ofPieces true false ["0123456é", "a", "b"]).runBounded? 9 =
          some result ∧
        LongestFitting 8 "0123456éab" result.buffer.text ∧
        result.taken = 0 := by
  have truncates : Truncates 9 := bounded_formatting_truncates (by decide)
  obtain ⟨result, ran, cuts⟩ :=
    truncates.run (ofPieces true false ["0123456é", "a", "b"])
  have offered :
      joined
          ((ofPieces true false ["0123456é", "a", "b"]).offersBounded 9) =
        "0123456éab" := by
    decide
  have text := cuts.text
  rw [offered] at text
  refine ⟨result, ran, text, ?_⟩
  rw [cuts.count]
  decide

end Formatter

end SignalHub
