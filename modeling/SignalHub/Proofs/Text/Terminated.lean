import SignalHub.Proofs.Text.Utf8
import SignalHub.Text.Terminated

/-!
# Strings across the boundary

Only the terminator has a zero byte.  So taking the terminators out of a text
takes exactly the zero bytes out of its UTF-8 form, and reading bytes without a
zero gives a text without a terminator: what comes in goes out unchanged.
-/

namespace SignalHub.Text

/-! ## The zero byte -/

theorem toNat_eq_zero_iff {byte : UInt8} : byte.toNat = 0 ↔ byte = 0 := by
  rw [← UInt8.toNat_inj]
  rfl

theorem zero_not_mem_of_positive
    {input : Bytes} (positive : ∀ byte, byte ∈ input → 0 < byte.toNat) :
    (0 : UInt8) ∉ input := by
  intro member
  have impossible := positive 0 member
  exact Nat.lt_irrefl 0 impossible

theorem utf8EncodeChar_terminator :
    String.utf8EncodeChar '\x00' = [0] := by
  decide

/-- The terminator is the only character with a zero byte. -/
theorem zero_not_mem_utf8EncodeChar
    {character : Char} (different : character ≠ '\x00') :
    (0 : UInt8) ∉ String.utf8EncodeChar character := by
  have nonzero : character.toNat ≠ 0 := by
    intro equality
    apply different
    rw [← Char.ofNat_toNat character, equality]
  apply zero_not_mem_of_positive
  intro byte member
  rcases utf8EncodeChar_shape character with
    ⟨first, shape, lead, _⟩ |
    ⟨first, second, shape, lead, last, _⟩ |
    ⟨first, second, third, shape, lead, middle, last, _⟩ |
    ⟨first, second, third, fourth, shape, lead, inner, middle, last, _⟩
  · simp only [shape, List.mem_singleton] at member
    subst member
    omega
  · simp only [shape, List.mem_cons, List.not_mem_nil, or_false] at member
    rcases member with rfl | rfl <;> omega
  · simp only [shape, List.mem_cons, List.not_mem_nil, or_false] at member
    rcases member with rfl | rfl | rfl <;> omega
  · simp only [shape, List.mem_cons, List.not_mem_nil, or_false] at member
    rcases member with rfl | rfl | rfl | rfl <;> omega

theorem filter_utf8EncodeChar
    {character : Char} (different : character ≠ '\x00') :
    (String.utf8EncodeChar character).filter (· != 0) =
      String.utf8EncodeChar character := by
  rw [List.filter_eq_self]
  intro byte member
  have nonzero : byte ≠ 0 := by
    intro equality
    rw [equality] at member
    exact zero_not_mem_utf8EncodeChar different member
  simpa using nonzero

theorem encode_filter (characters : List Char) :
    encode (characters.filter (· != '\x00')) =
      (encode characters).filter (· != 0) := by
  induction characters with
  | nil => rfl
  | cons character rest inductionHypothesis =>
      rw [encode_cons, List.filter_append, ← inductionHypothesis]
      by_cases equality : character = '\x00'
      · rw [equality, List.filter_cons_of_neg (by decide),
          utf8EncodeChar_terminator]
        rfl
      · rw [List.filter_cons_of_pos (by simpa using equality), encode_cons,
          filter_utf8EncodeChar equality]

/-- What goes out is the text without its zero bytes, and with all others. -/
theorem bytes_outgoing (text : String) :
    bytes (outgoing text) = (bytes text).filter (· != 0) := by
  rw [bytes, outgoing, String.toList_ofList, encode_filter]
  rfl

theorem zero_not_mem_bytes_outgoing (text : String) :
    (0 : UInt8) ∉ bytes (outgoing text) := by
  rw [bytes_outgoing]
  intro member
  have nonzero := (List.mem_filter.mp member).2
  simp at nonzero

/-! ## Reading without a zero -/

namespace Pending

/-- The least number that an unfinished sequence can still become. -/
def least (pending : Pending) : Nat :=
  (pending.value * 64 + (pending.low.toNat - 0x80)) *
    64 ^ (pending.missing - 1)

/-- The number after the greatest one. -/
def bound (pending : Pending) : Nat :=
  (pending.value * 64 + (pending.high.toNat - 0x80) + 1) *
    64 ^ (pending.missing - 1)

/-- Whatever an unfinished sequence may still become is a character, and not
the terminator. -/
structure Sound (pending : Pending) : Prop where
  unfinished : 0 < pending.missing
  low : 0x80 ≤ pending.low.toNat
  high : pending.high.toNat ≤ 0xBF
  positive : 0 < pending.least
  scalar :
    pending.bound ≤ 0xD800 ∨
      0xE000 ≤ pending.least ∧ pending.bound ≤ 0x110000

/-- One more byte leaves fewer numbers to choose from. -/
theorem Sound.more
    {pending : Pending} {byte : UInt8} {missing : Nat}
    (sound : pending.Sound)
    (more : pending.missing = missing + 2)
    (low : pending.low.toNat ≤ byte.toNat)
    (high : byte.toNat ≤ pending.high.toNat) :
    Sound
      ⟨missing + 1, 0x80, 0xBF, pending.value * 64 + (byte.toNat - 0x80)⟩ := by
  have power : 64 ^ (pending.missing - 1) = 64 * 64 ^ missing := by
    rw [more, show missing + 2 - 1 = missing + 1 from rfl, Nat.pow_succ,
      Nat.mul_comm]
  have least_le :
      pending.least ≤
        Pending.least
          ⟨missing + 1, 0x80, 0xBF,
            pending.value * 64 + (byte.toNat - 0x80)⟩ := by
    simp only [least, power, ← Nat.mul_assoc, Nat.add_sub_cancel]
    apply Nat.mul_le_mul_right
    omega
  have le_bound :
      Pending.bound
          ⟨missing + 1, 0x80, 0xBF,
            pending.value * 64 + (byte.toNat - 0x80)⟩ ≤
        pending.bound := by
    simp only [bound, power, ← Nat.mul_assoc, Nat.add_sub_cancel,
      UInt8.reduceToNat]
    apply Nat.mul_le_mul_right
    omega
  refine ⟨Nat.succ_pos _, Nat.le_refl _, Nat.le_refl _, ?_, ?_⟩
  · exact Nat.lt_of_lt_of_le sound.positive least_le
  · rcases sound.scalar with below | ⟨above, within⟩
    · exact Or.inl (Nat.le_trans le_bound below)
    · exact
        Or.inr ⟨Nat.le_trans above least_le, Nat.le_trans le_bound within⟩

end Pending

/-- The reader's state between two bytes. -/
def SoundState (state : Option Pending) : Prop :=
  ∀ pending, state = some pending → pending.Sound

theorem soundState_none : SoundState none := by
  intro pending equality
  cases equality

theorem soundState_some {pending : Pending} (sound : pending.Sound) :
    SoundState (some pending) := by
  intro other equality
  cases equality
  exact sound

theorem ofNat_ne_terminator
    {number : Nat} (positive : 0 < number) (valid : number.isValidChar) :
    Char.ofNat number ≠ '\x00' := by
  intro equality
  have same : (Char.ofNat number).toNat = 0 := by
    rw [equality]
    rfl
  rw [Char.ofNat, dif_pos valid] at same
  have value : number = 0 := same
  omega

theorem replacement_ne_terminator : replacement ≠ '\x00' := by
  decide

/-- What a byte leaves behind: no terminator, and a sound state. -/
structure SoundReading (reading : List Char × Option Pending) : Prop where
  clean : '\x00' ∉ reading.1
  state : SoundState reading.2

theorem soundReading_character
    {character : Char} (different : character ≠ '\x00') :
    SoundReading ([character], none) :=
  ⟨by simpa using different.symm, soundState_none⟩

theorem soundReading_pending {pending : Pending} (sound : pending.Sound) :
    SoundReading ([], some pending) :=
  ⟨List.not_mem_nil, soundState_some sound⟩

theorem leading_sound {byte : UInt8} (nonzero : byte ≠ 0) :
    SoundReading (leading byte) := by
  have positive : byte.toNat ≠ 0 :=
    fun equality => nonzero (toNat_eq_zero_iff.mp equality)
  by_cases one : byte.toNat < 0x80
  · rw [leading_one one]
    exact
      soundReading_character
        (ofNat_ne_terminator (by omega) (Or.inl (by omega)))
  · by_cases stray : byte.toNat < 0xC2 ∨ 0xF5 ≤ byte.toNat
    · rw [leading_stray (by omega) stray]
      exact soundReading_character replacement_ne_terminator
    · by_cases two : byte.toNat < 0xE0
      · rw [leading_two (by omega) two]
        apply soundReading_pending
        constructor <;> simp [Pending.least, Pending.bound] <;> omega
      · by_cases three : byte.toNat < 0xF0
        · rw [leading_three (by omega) three]
          apply soundReading_pending
          by_cases first : byte.toNat = 0xE0
          · constructor <;> simp [Pending.least, Pending.bound, first]
          · by_cases surrogates : byte.toNat = 0xED
            · constructor <;> simp [Pending.least, Pending.bound, surrogates]
            · constructor <;>
                simp [Pending.least, Pending.bound, first, surrogates] <;> omega
        · rw [leading_four (by omega) (by omega)]
          apply soundReading_pending
          by_cases first : byte.toNat = 0xF0
          · constructor <;> simp [Pending.least, Pending.bound, first]
          · by_cases last : byte.toNat = 0xF4
            · constructor <;> simp [Pending.least, Pending.bound, last]
            · constructor <;>
                simp [Pending.least, Pending.bound, first, last] <;> omega

theorem advance_broken
    {pending : Pending} {byte : UInt8}
    (outside : ¬ (pending.low ≤ byte ∧ byte ≤ pending.high)) :
    advance (some pending) byte =
      (replacement :: (leading byte).1, (leading byte).2) := by
  rw [advance, if_neg outside]

theorem advance_sound
    {state : Option Pending} (sound : SoundState state)
    {byte : UInt8} (nonzero : byte ≠ 0) :
    SoundReading (advance state byte) := by
  cases state with
  | none => exact leading_sound nonzero
  | some pending =>
      have pendingSound : pending.Sound := sound pending rfl
      by_cases inside : pending.low ≤ byte ∧ byte ≤ pending.high
      · have low : pending.low.toNat ≤ byte.toNat := inside.1
        have high : byte.toNat ≤ pending.high.toNat := inside.2
        rcases Nat.lt_or_ge 1 pending.missing with several | single
        · obtain ⟨missing, more⟩ := Nat.exists_eq_add_of_le' several
          rw [advance_more more low high]
          exact soundReading_pending (pendingSound.more more low high)
        · have last : pending.missing = 1 :=
            Nat.le_antisymm single pendingSound.unfinished
          have positive := pendingSound.positive
          have scalar := pendingSound.scalar
          simp only [Pending.least, Pending.bound, last, Nat.sub_self,
            Nat.pow_zero, Nat.mul_one] at positive scalar
          rw [advance_last last low high]
          apply soundReading_character
          apply ofNat_ne_terminator
          · omega
          · unfold Nat.isValidChar
            omega
      · have read := leading_sound nonzero
        rw [advance_broken inside]
        refine ⟨?_, read.state⟩
        intro member
        rcases List.mem_cons.mp member with equality | later
        · exact replacement_ne_terminator equality.symm
        · exact read.clean later

/-- Without a zero byte in front of it the reader finds no terminator. -/
theorem terminator_not_mem_decodeFrom
    {state : Option Pending} (sound : SoundState state)
    {input : Bytes} (clean : (0 : UInt8) ∉ input) :
    '\x00' ∉ decodeFrom state input := by
  induction input generalizing state with
  | nil =>
      cases state with
      | none => exact List.not_mem_nil
      | some pending =>
          intro member
          exact
            replacement_ne_terminator (List.mem_singleton.mp member).symm
  | cons byte rest inductionHypothesis =>
      have nonzero : byte ≠ 0 := by
        intro equality
        exact clean (equality ▸ List.mem_cons_self)
      have reading := advance_sound sound nonzero
      have restClean : (0 : UInt8) ∉ rest :=
        fun member => clean (List.mem_cons_of_mem byte member)
      rw [decodeFrom_cons]
      intro member
      rcases List.mem_append.mp member with here | later
      · exact reading.clean here
      · exact inductionHypothesis reading.state restClean later

/-! ## In and out again -/

theorem zero_not_mem_untilTerminator (input : Bytes) :
    (0 : UInt8) ∉ untilTerminator input := by
  intro member
  have nonzero :=
    List.all_eq_true.mp (List.all_takeWhile (p := (· != 0))) 0 member
  simp at nonzero

theorem untilTerminator_append_zero
    {data : Bytes} (clean : (0 : UInt8) ∉ data) (rest : Bytes) :
    untilTerminator (data ++ 0 :: rest) = data := by
  have kept : ∀ byte, byte ∈ data → (byte != 0) = true := by
    intro byte member
    have nonzero : byte ≠ 0 := by
      intro equality
      exact clean (equality ▸ member)
    simpa using nonzero
  rw [untilTerminator, List.takeWhile_append_of_pos kept,
    List.takeWhile_cons_of_neg (by decide), List.append_nil]

theorem terminator_not_mem_incoming (input : Option Bytes) :
    '\x00' ∉ (incoming input).toList := by
  cases input with
  | none => decide
  | some content =>
      rw [incoming, decode, String.toList_ofList]
      exact
        terminator_not_mem_decodeFrom soundState_none
          (zero_not_mem_untilTerminator content)

theorem outgoing_of_clean
    {text : String} (clean : '\x00' ∉ text.toList) :
    outgoing text = text := by
  have unchanged : text.toList.filter (· != '\x00') = text.toList := by
    rw [List.filter_eq_self]
    intro character member
    have different : character ≠ '\x00' := by
      intro equality
      exact clean (equality ▸ member)
    simpa using different
  rw [outgoing, unchanged, String.ofList_toList]

/-- What came in goes out as it is. -/
@[simp]
theorem outgoing_incoming (input : Option Bytes) :
    outgoing (incoming input) = incoming input :=
  outgoing_of_clean (terminator_not_mem_incoming input)

/-- Valid text is read as it is, up to its terminator. -/
theorem incoming_bytes
    {text : String} (clean : (0 : UInt8) ∉ bytes text) (rest : Bytes) :
    incoming (some (bytes text ++ 0 :: rest)) = text := by
  rw [incoming, untilTerminator_append_zero clean rest, decode_bytes]

theorem isText_bytes (text : String) : isText (bytes text) = true := by
  rw [isText, bytes, decodeChars_encode]
  exact beq_self_eq_true _

/-- A text that crosses the boundary whole: it is valid UTF-8, and whoever
reads it up to its terminator has read all of it. -/
structure Crosses (text : String) : Prop where
  valid : isText (bytes text) = true
  whole : ∀ rest, incoming (some (bytes text ++ 0 :: rest)) = text

theorem crosses_outgoing (text : String) : Crosses (outgoing text) :=
  ⟨isText_bytes (outgoing text),
    incoming_bytes (zero_not_mem_bytes_outgoing text)⟩

end SignalHub.Text
