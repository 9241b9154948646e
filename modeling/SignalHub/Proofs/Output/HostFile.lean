import SignalHub.Output.Channel

/-!
# Files of the host that take everything

As long as the device behind a file refuses nothing, every print succeeds, and
what the device took followed by what is held is what was printed.  A flush
then leaves nothing held.
-/

namespace SignalHub.Output

open Text

theorem atMost_le (limit : Option Nat) (count : Nat) :
    atMost limit count ≤ count := by
  cases limit with
  | none => exact Nat.le_refl count
  | some bound => exact Nat.min_le_left count bound

theorem atMost_pos
    {limit : Option Nat} {count : Nat} (moving : limit ≠ some 0)
    (positive : 0 < count) : 0 < atMost limit count := by
  cases limit with
  | none => exact positive
  | some bound =>
      have bounded : bound ≠ 0 := by
        rintro rfl
        exact moving rfl
      exact Nat.lt_min.mpr ⟨positive, Nat.pos_of_ne_zero bounded⟩

/-! ## Devices that take everything -/

/-- No attempt is refused or interrupted, and each takes something. -/
structure Device.Willing (device : Device) : Prop where
  roomy : device.room = none
  moving : device.burst ≠ some 0
  script : ∀ verdict ∈ device.script, ∃ count, verdict = .accept (count + 1)

namespace Device

section Willing

variable {device : Device} {offered : Bytes}

theorem Willing.take
    (willing : device.Willing) (nonempty : offered ≠ [])
    {limit : Option Nat} (moving : limit ≠ some 0) :
    ∃ after count,
      device.take limit offered = (after, .took (count + 1)) ∧
        count + 1 ≤ offered.length ∧
        after.Willing ∧
        after.content = device.content ++ offered.take (count + 1) := by
  have positive :
      0 < atMost limit
        (atMost device.burst (atMost device.room offered.length)) := by
    rw [willing.roomy]
    exact
      atMost_pos moving
        (atMost_pos willing.moving (List.length_pos_iff.mpr nonempty))
  have within :
      atMost limit
          (atMost device.burst (atMost device.room offered.length)) ≤
        offered.length :=
    Nat.le_trans (atMost_le _ _)
      (Nat.le_trans (atMost_le _ _) (atMost_le _ _))
  obtain ⟨count, taken⟩ := Nat.exists_eq_succ_of_ne_zero (Nat.ne_of_gt positive)
  refine
    ⟨{ device with
        room := none
        content := device.content ++ offered.take (count + 1) },
      count, ?_, Nat.le_trans (Nat.le_of_eq taken.symm) within, ?_, rfl⟩
  · rw [Device.take, taken, willing.roomy]
    rfl
  · exact ⟨rfl, willing.moving, willing.script⟩

theorem Willing.attempt
    (willing : device.Willing) (nonempty : offered ≠ []) :
    ∃ after count,
      device.attempt offered = (after, .took (count + 1)) ∧
        count + 1 ≤ offered.length ∧
        after.Willing ∧
        after.content = device.content ++ offered.take (count + 1) := by
  cases script : device.script with
  | nil =>
      have roomy : device.room ≠ some 0 := by
        rw [willing.roomy]
        exact Option.some_ne_none 0 |>.symm
      rw [Device.attempt, script]
      simp only [if_neg roomy]
      exact willing.take nonempty (Option.some_ne_none 0).symm
  | cons verdict rest =>
      obtain ⟨limit, accepts⟩ :=
        willing.script verdict (script ▸ List.mem_cons_self)
      have later : Willing { device with script := rest } := by
        refine ⟨willing.roomy, willing.moving, ?_⟩
        intro other member
        exact willing.script other (script ▸ List.mem_cons_of_mem _ member)
      rw [Device.attempt, script, accepts]
      exact later.take nonempty (by simp)

theorem Willing.drain (willing : device.Willing) (offered : Bytes) :
    ∃ after,
      device.drain offered = (after, offered.length, none) ∧
        after.Willing ∧ after.content = device.content ++ offered := by
  induction device, offered using Device.drain.induct with
  | case1 device offered empty =>
      have nothing : offered = [] := List.isEmpty_iff.mp empty
      refine ⟨device, ?_, willing, ?_⟩
      · rw [Device.drain, if_pos empty, nothing]
        rfl
      · rw [nothing, List.append_nil]
  -- A willing device takes some of what it is offered, so no attempt ends in
  -- any other way.
  | case2 device offered nonempty after attempted =>
      obtain ⟨_, _, takes, _⟩ := willing.attempt (by simpa using nonempty)
      cases attempted.symm.trans takes
  | case3 device offered nonempty after fault attempted =>
      obtain ⟨_, _, takes, _⟩ := willing.attempt (by simpa using nonempty)
      cases attempted.symm.trans takes
  | case4 device offered nonempty after attempted =>
      obtain ⟨_, _, takes, _⟩ := willing.attempt (by simpa using nonempty)
      cases attempted.symm.trans takes
  | case5 device offered nonempty after count attempted _ _ _ _
      inductionHypothesis =>
      obtain ⟨_, _, takes, within, willingThen, content⟩ :=
        willing.attempt (by simpa using nonempty)
      cases attempted.symm.trans takes
      obtain ⟨last, drained, willingLast, rest⟩ :=
        inductionHypothesis willingThen
      refine ⟨last, ?_, willingLast, ?_⟩
      · have total : count + 1 + (offered.length - (count + 1)) =
            offered.length := by
          omega
        rw [Device.drain, if_neg nonempty, attempted]
        simp only [drained, List.length_drop, total]
      · rw [rest, content, List.append_assoc, List.take_append_drop]

end Willing

end Device

/-! ## Files on such devices -/

namespace HostFile

/-- All bytes of the file: those its device took, then those it holds. -/
def content (file : HostFile) : Bytes :=
  file.device.content ++ file.held

/-- The file may be written to and takes everything. -/
structure Willing (file : HostFile) : Prop where
  writable : file.writable = true
  device : file.device.Willing

theorem wholeBlocks_le (capacity : Option Nat) (count : Nat) :
    wholeBlocks capacity count ≤ count := by
  cases capacity with
  | none => exact Nat.le_refl count
  | some size => exact Nat.sub_le count (count % size)

section Willing

variable {file : HostFile}

/-- Either all fits in, or what is held and whole blocks of the rest are written
and what is left of it is held. -/
theorem Willing.put (willing : file.Willing) (data : Bytes) :
    ∃ after,
      file.put data = (after, data.length, none) ∧
        after.Willing ∧ after.content = file.content ++ data := by
  by_cases fits : (data.drop file.room).isEmpty = true
  · have whole : data.take file.room = data := by
      rw [List.isEmpty_iff, List.drop_eq_nil_iff] at fits
      exact List.take_of_length_le fits
    refine ⟨{ file with held := file.held ++ data }, ?_, ?_, ?_⟩
    · rw [HostFile.put]
      simp only [if_pos fits, whole]
    · exact ⟨willing.writable, willing.device⟩
    · exact (List.append_assoc _ _ _).symm
  · obtain ⟨first, drained, willingFirst, contentFirst⟩ :=
      willing.device.drain (file.held ++ data.take file.room)
    let direct := wholeBlocks file.capacity (data.drop file.room).length
    obtain ⟨last, drainedThen, willingLast, contentLast⟩ :=
      willingFirst.drain ((data.drop file.room).take direct)
    have blocks :
        ((data.drop file.room).take direct).length = direct :=
      List.length_take_of_le (wholeBlocks_le _ _)
    refine
      ⟨{ file with
          device := last
          started := true
          held := (data.drop file.room).drop direct }, ?_, ?_, ?_⟩
    · rw [blocks] at drainedThen
      rw [HostFile.put]
      simp only [if_neg fits, willing.writable, Bool.not_true,
        Bool.false_eq_true, if_false, drained, Nat.lt_irrefl]
      simp only [direct] at drainedThen
      simp only [drainedThen, Nat.lt_irrefl, if_false]
      rfl
    · exact ⟨willing.writable, willingLast⟩
    · simp only [content, contentLast, contentFirst, List.append_assoc,
        List.take_append_drop]

theorem Willing.print (willing : file.Willing) (data : Bytes) :
    ∃ after,
      file.print data = (after, none) ∧
        after.Willing ∧ after.content = file.content ++ data := by
  cases data with
  | nil =>
      refine ⟨file, ?_, willing, (List.append_nil _).symm⟩
      rw [HostFile.print]
      rfl
  | cons byte rest =>
      obtain ⟨after, put, willingThen, content⟩ := willing.put (byte :: rest)
      refine ⟨after, ?_, willingThen, content⟩
      rw [List.length_cons] at put
      rw [HostFile.print, put]
      simp only [List.isEmpty_cons, Bool.false_eq_true, if_false,
        List.drop_succ_cons, List.drop_length]
      rw [HostFile.print]
      rfl

theorem Willing.flush (willing : file.Willing) :
    ∃ after,
      file.flush = (after, none) ∧
        after.Willing ∧ after.held = [] ∧
        after.device.content = file.content := by
  by_cases empty : file.held.isEmpty = true
  · have nothing : file.held = [] := List.isEmpty_iff.mp empty
    refine ⟨file, ?_, willing, nothing, ?_⟩
    · rw [HostFile.flush, if_pos empty]
    · rw [content, nothing, List.append_nil]
  · obtain ⟨after, drained, willingThen, contentThen⟩ :=
      willing.device.drain file.held
    refine
      ⟨{ file with device := after, held := [] }, ?_, ?_, rfl, contentThen⟩
    · rw [HostFile.flush, if_neg empty]
      simp only [drained, Nat.lt_irrefl, if_false]
    · exact ⟨willing.writable, willingThen⟩

end Willing

end HostFile

/-! ## The files of a process -/

namespace Ports

/-- The files with another one in the place of that of a name. -/
def replaced (files : List (String × HostFile)) (name : String)
    (file : HostFile) : List (String × HostFile) :=
  files.map fun entry => if entry.1 == name then (name, file) else entry

section Replaced

variable {files : List (String × HostFile)} {name : String}
  {file : HostFile}

theorem find?_replaced
    (present : (files.any fun entry => entry.1 == name) = true) :
    ((replaced files name file).find? fun entry => entry.1 == name) =
      some (name, file) := by
  induction files with
  | nil => cases present
  | cons entry rest inductionHypothesis =>
      rw [replaced, List.map_cons, List.find?_cons]
      by_cases here : (entry.1 == name) = true
      · simp only [if_pos here, beq_self_eq_true]
      · have later : (rest.any fun entry => entry.1 == name) = true := by
          rw [List.any_cons, Bool.or_eq_true] at present
          exact present.resolve_left here
        simp only [Bool.eq_false_iff.mpr here, Bool.false_eq_true, if_false]
        exact inductionHypothesis later

theorem find?_replaced_of_ne
    {other : String} (different : other ≠ name) :
    ((replaced files name file).find? fun entry => entry.1 == other) =
      files.find? fun entry => entry.1 == other := by
  induction files with
  | nil => rfl
  | cons entry rest inductionHypothesis =>
      rw [replaced, List.map_cons, ← replaced, List.find?_cons,
        List.find?_cons, inductionHypothesis]
      by_cases here : (entry.1 == name) = true
      · have unlike : (name == other) = false :=
          beq_false_of_ne different.symm
        have elsewhere : (entry.1 == other) = false := by
          rw [eq_of_beq here]
          exact unlike
        simp only [if_pos here, unlike, elsewhere]
      · simp only [if_neg here]

end Replaced

theorem file?_setFile (ports : Ports) (name : String) (file : HostFile) :
    (ports.setFile name file).file? name = some file := by
  rw [file?, setFile]
  by_cases present : (ports.files.any fun entry => entry.1 == name) = true
  · rw [if_pos present, ← replaced, find?_replaced present]
    rfl
  · have absent :
        (ports.files.find? fun entry => entry.1 == name) = none := by
      rw [List.find?_eq_none]
      intro entry member here
      exact present (List.any_eq_true.mpr ⟨entry, member, here⟩)
    rw [if_neg present, List.find?_append, absent]
    simp

theorem file_setFile (ports : Ports) (name : String) (file : HostFile) :
    (ports.setFile name file).file name = file := by
  rw [Ports.file, file?_setFile]
  rfl

/-- The files of other names stay as they are. -/
theorem file?_setFile_of_ne
    (ports : Ports) {name other : String} (file : HostFile)
    (different : other ≠ name) :
    (ports.setFile name file).file? other = ports.file? other := by
  rw [file?, file?, setFile]
  split
  · rw [← replaced, find?_replaced_of_ne different]
  · rw [List.find?_append]
    simp [different.symm]

end Ports

namespace Channel

section Flush

variable {channel : Channel} {name : String}

/-- A file that is the target is flushed once. -/
theorem file_flush
    (here : channel.current = .file name) (ports : Ports) :
    (channel.flush ports).2.1.file name = (ports.file name).flush.1 ∧
      (channel.flush ports).2.2.2 = (ports.file name).flush.2 := by
  rw [flush, here]
  exact ⟨ports.file_setFile name _, rfl⟩

/-- No other file is touched. -/
theorem file?_flush_of_ne
    (elsewhere : channel.current ≠ .file name) (ports : Ports) :
    (channel.flush ports).2.1.file? name = ports.file? name := by
  rw [flush]
  cases here : channel.current with
  | screen => rfl
  | stream stream => rfl
  | file other =>
      have different : name ≠ other := by
        rintro rfl
        exact elsewhere here
      exact ports.file?_setFile_of_ne _ different

end Flush

end Channel

end SignalHub.Output
