import Mathlib.Algebra.Group.Nat.Defs
import SignalHub.Text.Utf8

/-!
# Reading what was written

The reader of bytes undoes the writer of characters, whatever follows; so text
survives its way through UTF-8, and different texts have different bytes.
-/

namespace SignalHub.Text

/-! ## Single bytes -/

theorem leading_one {byte : UInt8} (low : byte.toNat < 0x80) :
    leading byte = ([Char.ofNat byte.toNat], none) := by
  simp [leading, UInt8.lt_iff_toNat_lt, low]

theorem leading_two
    {byte : UInt8}
    (low : 0xC2 ≤ byte.toNat)
    (high : byte.toNat < 0xE0) :
    leading byte = ([], some ⟨1, 0x80, 0xBF, byte.toNat - 0xC0⟩) := by
  have notOne : ¬ byte < 0x80 := by
    simp only [UInt8.lt_iff_toNat_lt, UInt8.reduceToNat]
    omega
  have notStray : ¬ byte < 0xC2 := by
    simp only [UInt8.lt_iff_toNat_lt, UInt8.reduceToNat]
    omega
  have inside : byte < 0xE0 := by
    simp only [UInt8.lt_iff_toNat_lt, UInt8.reduceToNat]
    omega
  simp only [leading, notOne, notStray, inside, if_false, if_true]

theorem leading_three
    {byte : UInt8}
    (low : 0xE0 ≤ byte.toNat)
    (high : byte.toNat < 0xF0) :
    leading byte =
      ([], some
        ⟨2, if byte.toNat = 0xE0 then 0xA0 else 0x80,
          if byte.toNat = 0xED then 0x9F else 0xBF, byte.toNat - 0xE0⟩) := by
  simp only [leading, UInt8.lt_iff_toNat_lt, ← UInt8.toNat_inj,
    UInt8.reduceToNat]
  rw [if_neg (by omega), if_neg (by omega), if_neg (by omega)]
  by_cases first : byte.toNat = 0xE0
  · simp [first]
  · by_cases surrogates : byte.toNat = 0xED
    · simp [surrogates]
    · simp [first, surrogates, high]

theorem leading_four
    {byte : UInt8}
    (low : 0xF0 ≤ byte.toNat)
    (high : byte.toNat ≤ 0xF4) :
    leading byte =
      ([], some
        ⟨3, if byte.toNat = 0xF0 then 0x90 else 0x80,
          if byte.toNat = 0xF4 then 0x8F else 0xBF, byte.toNat - 0xF0⟩) := by
  simp only [leading, UInt8.lt_iff_toNat_lt, ← UInt8.toNat_inj,
    UInt8.reduceToNat]
  rw [if_neg (by omega), if_neg (by omega), if_neg (by omega), if_neg (by omega),
    if_neg (by omega), if_neg (by omega)]
  by_cases first : byte.toNat = 0xF0
  · simp [first]
  · by_cases last : byte.toNat = 0xF4
    · simp [last]
    · have middle : byte.toNat < 0xF4 := by omega
      simp [first, last, middle]

theorem leading_stray
    {byte : UInt8}
    (notOne : 0x80 ≤ byte.toNat)
    (outside : byte.toNat < 0xC2 ∨ 0xF5 ≤ byte.toNat) :
    leading byte = ([replacement], none) := by
  simp only [leading, UInt8.lt_iff_toNat_lt, ← UInt8.toNat_inj,
    UInt8.reduceToNat]
  rw [if_neg (by omega)]
  rcases outside with continuation | beyond
  · rw [if_pos continuation]
  · rw [if_neg (by omega), if_neg (by omega), if_neg (by omega),
      if_neg (by omega), if_neg (by omega), if_neg (by omega),
      if_neg (by omega), if_neg (by omega)]

theorem advance_last
    {pending : Pending} {byte : UInt8}
    (missing : pending.missing = 1)
    (low : pending.low.toNat ≤ byte.toNat)
    (high : byte.toNat ≤ pending.high.toNat) :
    advance (some pending) byte =
      ([Char.ofNat (pending.value * 64 + (byte.toNat - 0x80))], none) := by
  simp [advance, UInt8.le_iff_toNat_le, low, high, missing]

theorem advance_more
    {pending : Pending} {byte : UInt8} {missing : Nat}
    (more : pending.missing = missing + 2)
    (low : pending.low.toNat ≤ byte.toNat)
    (high : byte.toNat ≤ pending.high.toNat) :
    advance (some pending) byte =
      ([], some
        ⟨missing + 1, 0x80, 0xBF,
          pending.value * 64 + (byte.toNat - 0x80)⟩) := by
  simp [advance, UInt8.le_iff_toNat_le, low, high, more]

theorem decodeFrom_cons (state : Option Pending) (byte : UInt8) (rest : Bytes) :
    decodeFrom state (byte :: rest) =
      (advance state byte).1 ++ decodeFrom (advance state byte).2 rest := by
  cases state <;> rfl

/-! ## Characters -/

theorem toNat_ofNat_of_lt {number : Nat} (small : number < 256) :
    (UInt8.ofNat number).toNat = number := by
  simpa using Nat.mod_eq_of_lt small

/-- The bytes of a character, by its number. -/
theorem utf8EncodeChar_shape (character : Char) :
    (∃ first,
      String.utf8EncodeChar character = [first] ∧
        first.toNat = character.toNat ∧ character.toNat < 0x80) ∨
    (∃ first second,
      String.utf8EncodeChar character = [first, second] ∧
        first.toNat = character.toNat / 64 + 0xC0 ∧
        second.toNat = character.toNat % 64 + 0x80 ∧
        0x80 ≤ character.toNat ∧ character.toNat < 0x800) ∨
    (∃ first second third,
      String.utf8EncodeChar character = [first, second, third] ∧
        first.toNat = character.toNat / 4096 + 0xE0 ∧
        second.toNat = character.toNat / 64 % 64 + 0x80 ∧
        third.toNat = character.toNat % 64 + 0x80 ∧
        0x800 ≤ character.toNat ∧ character.toNat < 0x10000) ∨
    (∃ first second third fourth,
      String.utf8EncodeChar character = [first, second, third, fourth] ∧
        first.toNat = character.toNat / 262144 + 0xF0 ∧
        second.toNat = character.toNat / 4096 % 64 + 0x80 ∧
        third.toNat = character.toNat / 64 % 64 + 0x80 ∧
        fourth.toNat = character.toNat % 64 + 0x80 ∧
        0x10000 ≤ character.toNat ∧ character.toNat < 0x110000) := by
  have valid : character.toNat.isValidChar := character.valid
  simp only [Nat.isValidChar] at valid
  simp only [String.utf8EncodeChar, Char.toNat_val]
  generalize character.toNat = value at valid ⊢
  split
  · exact Or.inl ⟨_, rfl, toNat_ofNat_of_lt (by omega), by omega⟩
  · split
    · refine Or.inr (Or.inl ⟨_, _, rfl, ?_, ?_, by omega, by omega⟩)
      · rw [toNat_ofNat_of_lt (by omega)]
        omega
      · exact toNat_ofNat_of_lt (by omega)
    · split
      · refine
          Or.inr (Or.inr (Or.inl
            ⟨_, _, _, rfl, ?_, ?_, ?_, by omega, by omega⟩))
        · rw [toNat_ofNat_of_lt (by omega)]
          omega
        · exact toNat_ofNat_of_lt (by omega)
        · exact toNat_ofNat_of_lt (by omega)
      · refine
          Or.inr (Or.inr (Or.inr
            ⟨_, _, _, _, rfl, ?_, ?_, ?_, ?_, by omega, by omega⟩))
        · rw [toNat_ofNat_of_lt (by omega)]
          omega
        · exact toNat_ofNat_of_lt (by omega)
        · exact toNat_ofNat_of_lt (by omega)
        · exact toNat_ofNat_of_lt (by omega)

/-- A character that was written is read back, whatever follows it. -/
theorem decodeFrom_utf8EncodeChar_append (character : Char) (rest : Bytes) :
    decodeFrom none (String.utf8EncodeChar character ++ rest) =
      character :: decodeFrom none rest := by
  have restored := Char.ofNat_toNat character
  have valid : character.toNat.isValidChar := character.valid
  simp only [Nat.isValidChar] at valid
  rcases utf8EncodeChar_shape character with
    ⟨first, shape, lead, small⟩ |
    ⟨first, second, shape, lead, last, low, high⟩ |
    ⟨first, second, third, shape, lead, middle, last, low, high⟩ |
    ⟨first, second, third, fourth, shape, lead, inner, middle, last, low, high⟩
  · rw [shape, List.singleton_append, decodeFrom_cons, advance,
      leading_one (by omega), lead, restored, List.singleton_append]
  · have value :
        (first.toNat - 0xC0) * 64 + (second.toNat - 0x80) =
          character.toNat := by
      omega
    rw [shape, List.cons_append, decodeFrom_cons, advance,
      leading_two (by omega) (by omega), List.nil_append,
      List.singleton_append, decodeFrom_cons,
      advance_last rfl (by simp [last]) (by simp [last]; omega), value,
      restored, List.singleton_append]
  · have value :
        ((first.toNat - 0xE0) * 64 + (second.toNat - 0x80)) * 64 +
            (third.toNat - 0x80) =
          character.toNat := by
      omega
    have secondLow :
        (if first.toNat = 0xE0 then (0xA0 : UInt8) else 0x80).toNat ≤
          second.toNat := by
      split
      · simp
        omega
      · simp
        omega
    have secondHigh :
        second.toNat ≤
          (if first.toNat = 0xED then (0x9F : UInt8) else 0xBF).toNat := by
      split
      · simp
        omega
      · simp
        omega
    rw [shape, List.cons_append, decodeFrom_cons, advance,
      leading_three (by omega) (by omega), List.nil_append, List.cons_append,
      decodeFrom_cons, advance_more rfl secondLow secondHigh, List.nil_append,
      List.singleton_append, decodeFrom_cons,
      advance_last rfl (by simp [last]) (by simp [last]; omega), value,
      restored, List.singleton_append]
  · have value :
        (((first.toNat - 0xF0) * 64 + (second.toNat - 0x80)) * 64 +
              (third.toNat - 0x80)) * 64 + (fourth.toNat - 0x80) =
          character.toNat := by
      omega
    have secondLow :
        (if first.toNat = 0xF0 then (0x90 : UInt8) else 0x80).toNat ≤
          second.toNat := by
      split
      · simp
        omega
      · simp
        omega
    have secondHigh :
        second.toNat ≤
          (if first.toNat = 0xF4 then (0x8F : UInt8) else 0xBF).toNat := by
      split
      · simp
        omega
      · simp
        omega
    rw [shape, List.cons_append, decodeFrom_cons, advance,
      leading_four (by omega) (by omega), List.nil_append, List.cons_append,
      decodeFrom_cons, advance_more rfl secondLow secondHigh, List.nil_append,
      List.cons_append, decodeFrom_cons,
      advance_more rfl (by simp [middle]) (by simp [middle]; omega),
      List.nil_append, List.singleton_append, decodeFrom_cons,
      advance_last rfl (by simp [last]) (by simp [last]; omega), value,
      restored, List.singleton_append]

theorem decodeFrom_encode_append (characters : List Char) (rest : Bytes) :
    decodeFrom none (encode characters ++ rest) =
      characters ++ decodeFrom none rest := by
  induction characters with
  | nil => rfl
  | cons character others inductionHypothesis =>
      rw [encode_cons, List.append_assoc, decodeFrom_utf8EncodeChar_append,
        inductionHypothesis, List.cons_append]

/-- Reading is the inverse of writing. -/
@[simp]
theorem decodeChars_encode (characters : List Char) :
    decodeChars (encode characters) = characters := by
  have read := decodeFrom_encode_append characters []
  simpa [decodeChars, decodeFrom] using read

@[simp]
theorem decode_bytes (text : String) : decode (bytes text) = text := by
  rw [decode, bytes, decodeChars_encode, String.ofList_toList]

theorem bytes_injective {left right : String}
    (same : bytes left = bytes right) : left = right := by
  rw [← decode_bytes left, same, decode_bytes]

theorem decode?_eq_some {input : Bytes} {text : String} :
    decode? input = some text ↔ input = bytes text := by
  rw [decode?]
  constructor
  · intro read
    split at read
    · next same =>
        cases read
        rw [isText, beq_iff_eq] at same
        rw [bytes, decode, String.toList_ofList]
        exact same.symm
    · cases read
  · rintro rfl
    have same : isText (bytes text) = true := by
      rw [isText, bytes, decodeChars_encode, beq_self_eq_true]
    rw [if_pos same, decode_bytes]

/-! ## Numbers -/

theorem length_encode_of_ascii
    {characters : List Char}
    (ascii : ∀ character ∈ characters, character.val ≤ 127) :
    (encode characters).length = characters.length := by
  induction characters with
  | nil => rfl
  | cons character rest inductionHypothesis =>
      have one : character.utf8Size = 1 :=
        Char.utf8Size_eq_one_iff.mpr (ascii character List.mem_cons_self)
      have others :=
        inductionHypothesis fun other member =>
          ascii other (List.mem_cons_of_mem character member)
      rw [encode_cons, List.length_append, String.length_utf8EncodeChar, one,
        others, List.length_cons, Nat.add_comm]

theorem length_bytes_toString
    {number : Nat} (small : number < 2 ^ 64) :
    (bytes (toString number)).length ≤ 20 := by
  have ascii :
      ∀ digit ∈ Nat.toDigits 10 number, digit.val ≤ 127 := by
    intro digit member
    have isDigit :=
      Nat.isDigit_of_mem_toDigits (by decide) (by decide) member
    rw [Char.isDigit, Bool.and_eq_true, decide_eq_true_iff] at isDigit
    have high : digit.val ≤ 57 := of_decide_eq_true isDigit.2
    exact Nat.le_trans high (by decide)
  have digits : (Nat.toDigits 10 number).length ≤ 20 := by
    rw [Nat.length_toDigits_le_iff (by decide) (by decide)]
    omega
  rw [Nat.toString_eq_ofList_toDigits, bytes, String.toList_ofList,
    length_encode_of_ascii ascii]
  exact digits

end SignalHub.Text
