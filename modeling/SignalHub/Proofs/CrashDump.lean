import Mathlib.Logic.Function.Iterate
import SignalHub.Proofs.Text.Terminated
import SignalHub.Session

/-!
# Names of crash dumps

The name is appended to a text, written into a buffer of the foreign side, or put
into a directory.  In the buffer it takes the place of the old terminator and of
the bytes behind it, and of nothing else; a directory differs from the others by
one separator at most.
-/

namespace SignalHub.CrashDump

open Text

/-! ## Single bytes -/

/-- The bytes that appending the name stores in a buffer, each with its place. -/
def stores (buffer : Bytes) : List (UInt8 × Nat) :=
  (bytes fileName ++ [0]).zipIdx (untilTerminator buffer).length

/-- Stores bytes in order.  There is no place beyond the end. -/
def stored (buffer : Bytes) (entries : List (UInt8 × Nat)) : Bytes :=
  entries.foldl (fun buffer entry => buffer.set entry.2 entry.1) buffer

/-- Bytes that are stored one behind the other are stored at once. -/
theorem stored_zipIdx (buffer data : Bytes) (start : Nat) :
    stored buffer (data.zipIdx start) =
      buffer.take start ++ data.take (buffer.length - start) ++
        buffer.drop (start + data.length) := by
  induction data generalizing buffer start with
  | nil => simp [stored]
  | cons byte rest inductionHypothesis =>
      have step :
          stored buffer ((byte :: rest).zipIdx start) =
            stored (buffer.set start byte) (rest.zipIdx (start + 1)) := rfl
      rw [step, inductionHypothesis, List.length_set]
      by_cases inside : start < buffer.length
      · have front :
            (buffer.set start byte).take (start + 1) =
              buffer.take start ++ [byte] := by
          have length : (buffer.take start ++ [byte]).length = start + 1 := by
            simp [Nat.le_of_lt inside]
          rw [List.set_eq_take_append_cons_drop, if_pos inside,
            List.append_cons, List.take_left' length]
        have behind :
            (buffer.set start byte).drop (start + 1 + rest.length) =
              buffer.drop (start + (byte :: rest).length) := by
          rw [List.drop_set_of_lt (by omega), List.length_cons]
          congr 1
          omega
        have count : buffer.length - start = buffer.length - (start + 1) + 1 := by
          omega
        rw [front, behind, count, List.take_succ_cons]
        simp
      · have beyond : buffer.length ≤ start := Nat.le_of_not_lt inside
        have full : buffer.length - start = 0 := Nat.sub_eq_zero_of_le beyond
        rw [List.set_eq_of_length_le beyond]
        simp [full, List.take_of_length_le, List.drop_of_length_le, beyond,
          Nat.le_succ_of_le, Nat.le_add_right_of_le]

theorem appendInto_eq_stored (buffer : Bytes) :
    appendInto buffer = stored buffer (stores buffer) :=
  (stored_zipIdx buffer (bytes fileName ++ [0]) _).symm

/-! ## In a buffer -/

section Buffer

variable {directory rest : Bytes}

/-- So many copies of the name. -/
def names (count : Nat) : Bytes :=
  (List.replicate count (bytes "crash.dmp")).flatten

theorem names_succ (count : Nat) :
    names (count + 1) = bytes "crash.dmp" ++ names count := by
  rw [names, List.replicate_succ, List.flatten_cons]
  rfl

theorem length_names (count : Nat) : (names count).length = 9 * count := by
  induction count with
  | zero => rfl
  | succ count inductionHypothesis =>
      have nine : (bytes "crash.dmp").length = 9 := by decide
      rw [names_succ, List.length_append, inductionHypothesis, nine]
      omega

theorem zero_not_mem_name : (0 : UInt8) ∉ bytes "crash.dmp" := by
  decide

theorem zero_not_mem_names (count : Nat) : (0 : UInt8) ∉ names count := by
  intro member
  obtain ⟨name, copied, inside⟩ := List.mem_flatten.mp member
  rw [List.eq_of_mem_replicate copied] at inside
  exact zero_not_mem_name inside

/-- With enough room the name and a new terminator take the place of the old one
and of nine bytes behind it. -/
theorem appendInto_eq
    (clean : (0 : UInt8) ∉ directory) (room : 9 ≤ rest.length) :
    appendInto (directory ++ 0 :: rest) =
      directory ++ bytes "crash.dmp" ++ 0 :: rest.drop 9 := by
  have start : untilTerminator (directory ++ 0 :: rest) = directory :=
    untilTerminator_append_zero clean rest
  have ten : (bytes fileName ++ [0]).length = 10 := by decide
  have free :
      10 ≤ (directory ++ 0 :: rest).length - directory.length := by
    simp only [List.length_append, List.length_cons]
    omega
  have behind :
      (directory ++ 0 :: rest).drop (directory.length + 10) = rest.drop 9 := by
    rw [List.drop_append, List.drop_of_length_le (by omega),
      Nat.add_sub_cancel_left]
    rfl
  have whole :
      (bytes fileName ++ [0]).take
          ((directory ++ 0 :: rest).length - directory.length) =
        bytes fileName ++ [0] :=
    List.take_of_length_le (ten ▸ free)
  simp only [appendInto, start, whole, ten, behind, List.take_left]
  simp [fileName]

/-- Again and again, as long as there is room. -/
theorem iterate_appendInto
    (clean : (0 : UInt8) ∉ directory) {count : Nat}
    (room : 9 * count ≤ rest.length) :
    appendInto^[count] (directory ++ 0 :: rest) =
      directory ++ names count ++ 0 :: rest.drop (9 * count) := by
  induction count generalizing directory rest with
  | zero => simp [names]
  | succ count inductionHypothesis =>
      have first : 9 ≤ rest.length := by omega
      have others : 9 * count ≤ (rest.drop 9).length := by
        rw [List.length_drop]
        omega
      have cleanThen : (0 : UInt8) ∉ directory ++ bytes "crash.dmp" := by
        rw [List.mem_append]
        rintro (inside | inside)
        · exact clean inside
        · exact zero_not_mem_name inside
      have total : 9 + 9 * count = 9 * (count + 1) := by omega
      rw [Function.iterate_succ_apply, appendInto_eq clean first,
        inductionHypothesis cleanThen others, names_succ, List.drop_drop, total]
      simp only [List.append_assoc]

/-- A buffer in which the name was appended so many times to a directory. -/
structure Appended
    (directory rest : Bytes) (count : Nat) (buffer : Bytes) : Prop where
  text : untilTerminator buffer = directory ++ names count
  terminator : buffer[directory.length + 9 * count]? = some 0
  length : buffer.length = (directory ++ 0 :: rest).length
  before : ∀ place, place < directory.length →
    buffer[place]? = (directory ++ 0 :: rest)[place]?
  behind : ∀ place, directory.length + 9 * count < place →
    buffer[place]? = (directory ++ 0 :: rest)[place]?

theorem appended_iterate
    (clean : (0 : UInt8) ∉ directory) {count : Nat}
    (room : 9 * count ≤ rest.length) :
    Appended directory rest count
      (appendInto^[count] (directory ++ 0 :: rest)) := by
  have cleanThen : (0 : UInt8) ∉ directory ++ names count := by
    rw [List.mem_append]
    rintro (inside | inside)
    · exact clean inside
    · exact zero_not_mem_names count inside
  have terminated :
      (directory ++ names count).length = directory.length + 9 * count := by
    rw [List.length_append, length_names]
  rw [iterate_appendInto clean room]
  constructor
  · exact untilTerminator_append_zero cleanThen _
  · rw [List.getElem?_append_right (Nat.le_of_eq terminated), terminated,
      Nat.sub_self, List.getElem?_cons_zero]
  · simp only [List.length_append, List.length_cons, List.length_drop,
      length_names]
    omega
  · intro place inside
    rw [List.append_assoc, List.getElem?_append_left inside,
      List.getElem?_append_left inside]
  · intro place after
    obtain ⟨distance, far⟩ := Nat.exists_eq_add_of_lt after
    have here : place - (directory ++ names count).length = distance + 1 := by
      omega
    have there : place - directory.length = 9 * count + distance + 1 := by
      omega
    rw [List.getElem?_append_right (by omega), here, List.getElem?_cons_succ,
      List.getElem?_append_right (by omega), there, List.getElem?_cons_succ,
      List.getElem?_drop]

end Buffer

/-! ## In a text -/

theorem bytes_appendTimes (count : Nat) (path : String) :
    bytes (appendTimes count path) = bytes path ++ names count := by
  induction count generalizing path with
  | zero => simp [appendTimes, names]
  | succ count inductionHypothesis =>
      have once : bytes (append path) = bytes path ++ bytes "crash.dmp" := by
        simp only [append, fileName, bytes, String.toList_append,
          encode_append]
      rw [appendTimes, inductionHypothesis, once, names_succ,
        List.append_assoc]

/-! ## In a directory -/

/-- A path that needs no separator: it is empty, or has one at its end. -/
def Closed (directory : Bytes) : Prop :=
  directory = [] ∨ ∃ parent, directory = parent ++ bytes "/"

theorem closed_iff (directory : Bytes) :
    Closed directory ↔
      (directory.isEmpty || directory.getLast? == some separator) = true := by
  have slash : bytes "/" = [separator] := by decide
  rw [Closed, Bool.or_eq_true, List.isEmpty_iff, beq_iff_eq,
    List.getLast?_eq_some_iff, slash]

theorem inDirectory_of_closed
    {directory : Bytes} (closed : Closed directory) :
    inDirectory directory = directory ++ bytes "crash.dmp" :=
  if_pos ((closed_iff directory).mp closed)

theorem inDirectory_of_open
    {directory : Bytes} (opened : ¬ Closed directory) :
    inDirectory directory =
      directory ++ bytes "/" ++ bytes "crash.dmp" := by
  have slash : bytes "/" = [separator] := by decide
  rw [inDirectory, if_neg (mt (closed_iff directory).mpr opened), slash,
    List.append_assoc]
  rfl

/-- The file in a directory is what appending gives if and only if the directory
needs no separator. -/
theorem inDirectory_eq_iff (directory : Bytes) :
    inDirectory directory = directory ++ bytes "crash.dmp" ↔
      Closed directory := by
  constructor
  · intro same
    by_contra opened
    have lengths := congrArg List.length same
    have one : (bytes "/").length = 1 := by decide
    rw [inDirectory_of_open opened, List.length_append, List.length_append,
      List.length_append, one] at lengths
    omega
  · exact inDirectory_of_closed

/-! ## The three ways -/

/-- What the foreign side finds in its buffer. -/
structure Named (directory rest : Bytes) : Prop where
  /-- Byte by byte, nothing is stored outside of the buffer, nor before the
  terminator. -/
  placed :
    appendInto (directory ++ 0 :: rest) =
        stored (directory ++ 0 :: rest) (stores (directory ++ 0 :: rest)) ∧
      ∀ entry ∈ stores (directory ++ 0 :: rest),
        directory.length ≤ entry.2 ∧
          entry.2 < (directory ++ 0 :: rest).length
  /-- So what lies beyond the buffer stays as it is. -/
  confined : ∀ beyond,
    appendInto (directory ++ 0 :: rest ++ beyond) =
      appendInto (directory ++ 0 :: rest) ++ beyond
  once : Appended directory rest 1 (appendInto (directory ++ 0 :: rest))
  call : ∀ session : Session,
    session.perform (.foreign (.crashDumpName (some (directory ++ 0 :: rest)))) =
      (session, [], .bytes (appendInto (directory ++ 0 :: rest)))
  /-- Calls in a row leave what appending to a text leaves. -/
  repeated : ∀ count, 9 * count ≤ rest.length →
    Appended directory rest count
        (appendInto^[count] (directory ++ 0 :: rest)) ∧
      ∀ path, bytes path = directory →
        untilTerminator (appendInto^[count] (directory ++ 0 :: rest)) =
          bytes (appendTimes count path)

/-- With ten bytes from the terminator on, the name is appended in a buffer as it
is to a text, and nothing else is touched.  Any directory has it with at most one
separator more. -/
theorem crash_dump_names_agree :
    (∀ directory rest : Bytes,
      (0 : UInt8) ∉ directory → 10 ≤ (0 :: rest).length →
        Named directory rest) ∧
      ∀ directory : Bytes,
        (inDirectory directory = directory ++ bytes "crash.dmp" ↔
            Closed directory) ∧
          (¬ Closed directory →
            inDirectory directory =
              directory ++ bytes "/" ++ bytes "crash.dmp") := by
  constructor
  · intro directory rest clean room
    have nine : 9 ≤ rest.length := Nat.le_of_succ_le_succ room
    constructor
    · refine ⟨appendInto_eq_stored _, ?_⟩
      intro entry member
      have placed := List.le_snd_of_mem_zipIdx member
      have bound := List.snd_lt_of_mem_zipIdx member
      have ten : (bytes fileName ++ [0]).length = 10 := by decide
      rw [untilTerminator_append_zero clean rest] at placed bound
      rw [ten] at bound
      refine ⟨placed, ?_⟩
      rw [List.length_append]
      omega
    · intro beyond
      have wide : 9 ≤ (rest ++ beyond).length := by
        rw [List.length_append]
        omega
      rw [List.append_assoc, List.cons_append, appendInto_eq clean wide,
        appendInto_eq clean nine, List.drop_append_of_le_length nine]
      simp only [List.append_assoc, List.cons_append]
    · have single : 9 * 1 ≤ rest.length := nine
      exact appended_iterate clean single
    · intro session
      rfl
    · intro count enough
      have appended := appended_iterate clean enough
      refine ⟨appended, ?_⟩
      rintro path rfl
      rw [appended.text, bytes_appendTimes]
  · intro directory
    exact ⟨inDirectory_eq_iff directory, inDirectory_of_open⟩

/-- A directory that is no valid text, in a buffer full of other bytes, twice. -/
theorem crash_dump_names_agree_stray :
    (0 : UInt8) ∉ [0xFF] ∧ 10 ≤ ((0 : UInt8) :: List.replicate 19 35).length ∧
      untilTerminator
          (appendInto^[2] ([0xFF] ++ 0 :: List.replicate 19 35)) =
        0xFF :: bytes "crash.dmpcrash.dmp" ∧
      (appendInto^[2] ([0xFF] ++ 0 :: List.replicate 19 35))[20]? = some 35 ∧
      inDirectory [0xFF] = 0xFF :: bytes "/crash.dmp" := by
  have clean : (0 : UInt8) ∉ [0xFF] := by decide
  have room : 10 ≤ ((0 : UInt8) :: List.replicate 19 35).length := by decide
  have opened : ¬ Closed [0xFF] := by
    rw [closed_iff]
    decide
  obtain ⟨buffers, directories⟩ := crash_dump_names_agree
  obtain ⟨appended, _⟩ :=
    (buffers [0xFF] (List.replicate 19 35) clean room).repeated 2 (by decide)
  refine ⟨clean, room, ?_, ?_, ?_⟩
  · rw [appended.text]
    decide
  · rw [appended.behind 20 (by decide)]
    rfl
  · rw [(directories [0xFF]).2 opened]
    decide

end SignalHub.CrashDump
