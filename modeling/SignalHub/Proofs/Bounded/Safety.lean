import SignalHub.Proofs.Bounded

/-!
# Writes that cannot go wrong

A checked write gives up where a difference would be less than zero, where the
search for a boundary would leave the piece, and where the piece would be sliced
inside of a character.  In a buffer that started empty it never gives up, and it
does what a write does.
-/

namespace SignalHub

open Text

namespace Text

/-- A search for a boundary: where it starts, how many steps back it makes, and
where it stops. -/
structure Search where
  start : Nat
  steps : Nat
  stop : Nat
deriving DecidableEq, Repr

/-- A search that stays within a text and soon finds where one of its characters
ends. -/
structure Search.Sound (search : Search) (text : String) : Prop where
  starts : search.start < (bytes text).length
  soon : search.steps ≤ 3
  stops : search.stop + search.steps = search.start
  boundary : ∃ front rest,
    text.toList = front ++ rest ∧ (encode front).length = search.stop

/-- A difference, unless it would be less than zero. -/
def difference? (whole part : Nat) : Option Nat :=
  if part ≤ whole then some (whole - part) else none

/-- The search step by step, unless it would step below zero: how many steps it
makes, and where it stops. -/
def stepBack? (input : Bytes) (offset : Nat) : Option (Nat × Nat) :=
  if isBoundary input offset then some (0, offset)
  else
    match offset with
    | 0 => none
    | below + 1 =>
        (stepBack? input below).map fun found => (found.1 + 1, found.2)

/-- The search from an offset, which must be within the text. -/
def search? (input : Bytes) (start : Nat) : Option Search :=
  if start ≤ input.length then
    (stepBack? input start).map fun found => ⟨start, found.1, found.2⟩
  else none

/-- A text up to an offset, which must be a boundary within it. -/
def slice? (input : Bytes) (offset : Nat) : Option Bytes :=
  if offset ≤ input.length ∧ isBoundary input offset then
    some (input.take offset)
  else none

theorem stepBack?_eq (input : Bytes) (offset : Nat) :
    stepBack? input offset =
      some
        (offset - floorBoundary input offset, floorBoundary input offset) := by
  induction offset with
  | zero => rfl
  | succ below inductionHypothesis =>
      rw [stepBack?, floorBoundary]
      by_cases here : isBoundary input (below + 1) = true
      · rw [if_pos here, if_pos here, Nat.sub_self]
      · have lower := floorBoundary_le input below
        have counted :
            below - floorBoundary input below + 1 =
              below + 1 - floorBoundary input below := by
          omega
        rw [if_neg here, if_neg here, inductionHypothesis]
        simp only [Option.map_some, counted]

/-- A character takes at most four bytes, so the boundary before an offset within
a text is at most three bytes away. -/
theorem sub_floorBoundary_le
    {limit : Nat} {characters : List Char}
    (within : limit < (encode characters).length) :
    limit - floorBoundary (encode characters) limit ≤ 3 := by
  have fits := length_encode_fitting_le limit characters
  rw [floorBoundary_encode]
  rcases fitting_stops limit characters with whole | ⟨next, rest, _, beyond⟩
  · rw [whole] at fits
    omega
  · have small := Char.utf8Size_le_four next
    omega

/-- The search for a boundary, and the text that is sliced off there. -/
theorem search?_of_within
    {limit : Nat} {text : String} (within : limit < (bytes text).length) :
    ∃ search : Search,
      search? (bytes text) limit = some search ∧ search.Sound text ∧
        slice? (bytes text) search.stop =
          some (encode (fitting limit text.toList)) := by
  let stop := floorBoundary (bytes text) limit
  have lower : stop ≤ limit := floorBoundary_le (bytes text) limit
  have boundary : isBoundary (bytes text) stop = true :=
    isBoundary_floorBoundary (bytes text) limit
  obtain ⟨rest, split⟩ := fitting_prefix_self limit text.toList
  refine ⟨⟨limit, limit - stop, stop⟩, ?_, ?_, ?_⟩
  · rw [search?, if_pos (Nat.le_of_lt within), stepBack?_eq]
    rfl
  · constructor
    · exact within
    · exact sub_floorBoundary_le within
    · exact Nat.add_sub_cancel' lower
    · exact
        ⟨fitting limit text.toList, rest, split.symm,
          (floorBoundary_encode limit text.toList).symm⟩
  · have inside : stop ≤ (bytes text).length :=
      Nat.le_trans lower (Nat.le_of_lt within)
    rw [slice?, if_pos ⟨inside, boundary⟩]
    exact congrArg some (take_floorBoundary_encode limit text.toList)

end Text

namespace BoundedBuffer

/-! ## Checked writes -/

/-- A write with all checks: the buffer, its answer, and the search for a
boundary if there was one. -/
def write? (buffer : BoundedBuffer) (piece : String) :
    Option (BoundedBuffer × Bool × Option Search) :=
  let offered := bytes piece
  if buffer.full then some (buffer, false, none)
  else
    (difference? buffer.capacity buffer.content.length).bind fun room =>
      if offered.length ≤ room then
        some ({ buffer with content := buffer.content ++ offered }, true, none)
      else
        (search? offered room).bind fun search =>
          (slice? offered search.stop).map fun kept =>
            ({ buffer with content := buffer.content ++ kept
                           full := true }, false, some search)

/-- The buffer after pieces were written to it, whatever it answered. -/
def after (buffer : BoundedBuffer) (pieces : List String) : BoundedBuffer :=
  pieces.foldl (fun buffer piece => (buffer.write piece).1) buffer

/-- The same by checked writes. -/
def after? (buffer : BoundedBuffer) (pieces : List String) :
    Option BoundedBuffer :=
  pieces.foldlM (fun buffer piece => (buffer.write? piece).map Prod.fst) buffer

/-- No check fails during a write, and if there is a search it is sound. -/
def WritesSafely (buffer : BoundedBuffer) (piece : String) : Prop :=
  ∃ search,
    buffer.write? piece =
        some ((buffer.write piece).1, (buffer.write piece).2, search) ∧
      ∀ found, search = some found → found.Sound piece

variable {buffer : BoundedBuffer} {characters : List Char}

theorem writesSafely_of_full
    (full : buffer.full = true) (piece : String) :
    buffer.WritesSafely piece := by
  refine ⟨none, ?_, ?_⟩
  · rw [write?, if_pos full, write_of_full full]
  · intro found impossible
    cases impossible

theorem Holds.writesSafely
    (holds : buffer.Holds characters) (piece : String) :
    buffer.WritesSafely piece := by
  cases vacant : buffer.full with
  | true => exact writesSafely_of_full vacant piece
  | false =>
      have opened : ¬ buffer.full = true := by
        rw [vacant]
        exact Bool.false_ne_true
      have room :
          difference? buffer.capacity buffer.content.length =
            some buffer.room :=
        if_pos holds.within
      by_cases fits : (bytes piece).length ≤ buffer.room
      · refine ⟨none, ?_, ?_⟩
        · rw [write?, if_neg opened, room, Option.bind_some, if_pos fits,
            write_of_fits vacant fits, vacant]
        · intro found impossible
          cases impossible
      · obtain ⟨search, found, sound, sliced⟩ :=
          search?_of_within (Nat.lt_of_not_le fits)
        refine ⟨some search, ?_, ?_⟩
        · rw [write?, if_neg opened, room, Option.bind_some, if_neg fits,
            found, Option.bind_some, sliced, Option.map_some,
            write_of_open vacant]
          simp only [fits, decide_false, Bool.not_false]
        · intro other same
          cases same
          exact sound

/-! ## Any number of writes -/

theorem after_of_full
    (full : buffer.full = true) (pieces : List String) :
    buffer.after pieces = buffer := by
  induction pieces with
  | nil => rfl
  | cons piece rest inductionHypothesis =>
      rw [after, List.foldl_cons, write_of_full full]
      exact inductionHypothesis

/-- What a write keeps, in an open buffer and in a full one. -/
theorem Holds.exists_write
    (holds : buffer.Holds characters) (piece : String) :
    (buffer.write piece).1.capacity = buffer.capacity ∧
      ∃ written, (buffer.write piece).1.Holds written := by
  cases vacant : buffer.full with
  | true =>
      rw [write_of_full vacant]
      exact ⟨rfl, characters, holds⟩
  | false =>
      refine ⟨?_, _, holds.write vacant piece⟩
      rw [write_of_open vacant]

/-- A buffer that holds characters does so after any writes, none of which goes
wrong. -/
theorem Holds.after
    (holds : buffer.Holds characters) (pieces : List String) :
    buffer.after? pieces = some (buffer.after pieces) ∧
      (buffer.after pieces).capacity = buffer.capacity ∧
      ∃ written, (buffer.after pieces).Holds written := by
  induction pieces generalizing buffer characters with
  | nil => exact ⟨rfl, rfl, characters, holds⟩
  | cons piece rest inductionHypothesis =>
      obtain ⟨search, passes, _⟩ := holds.writesSafely piece
      obtain ⟨capacity, written, holdsThen⟩ := holds.exists_write piece
      obtain ⟨checked, capacityThen, last⟩ := inductionHypothesis holdsThen
      refine ⟨?_, capacityThen.trans capacity, last⟩
      rw [after?, List.foldlM_cons, passes]
      exact checked

/-- A buffer of a size that nothing went wrong in, and nothing will. -/
structure Safe (size : Nat) (buffer : BoundedBuffer) : Prop where
  capacity : buffer.capacity = size - 1
  valid : isText buffer.content = true
  within : buffer.content.length ≤ buffer.capacity
  writes : ∀ piece, buffer.WritesSafely piece
  /-- A full buffer stays full and keeps what it holds. -/
  settled : buffer.full = true → ∀ pieces, buffer.after pieces = buffer

/-- Whatever pieces are written to an empty buffer of whatever size: no check ever
fails, and the buffer holds valid text within its capacity. -/
theorem writes_never_go_wrong (size : Nat) (pieces : List String) :
    (ofSize size).after? pieces = some ((ofSize size).after pieces) ∧
      Safe size ((ofSize size).after pieces) := by
  obtain ⟨checked, capacity, written, holds⟩ :=
    (holds_ofSize size).after pieces
  refine ⟨checked, capacity, ?_, holds.within, holds.writesSafely, ?_⟩
  · rw [holds.content, isText, decodeChars_encode]
    exact beq_self_eq_true _
  · intro full later
    exact after_of_full full later

/-- A character of four bytes at the last free byte but two: three steps back, to
where the piece starts. -/
example :
    ((ofSize 5).after ["a"]).write? "😀" =
      some (⟨4, [97], true⟩, false, some ⟨3, 3, 0⟩) := by
  decide

end BoundedBuffer

end SignalHub
