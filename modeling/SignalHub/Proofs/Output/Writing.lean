import SignalHub.Proofs.Output.HostFile
import SignalHub.Proofs.Output.Transfer

/-!
# The calls that write to a file

A file of the host is written to call by call: each call offers what the ones
before it have not accepted.  A call that accepts nothing is made again if it was
only interrupted, and otherwise ends the writing with its error.  A device that
does not interrupt for ever lets every writing end.
-/

namespace SignalHub.Output

open Text

/-! ## What a call leaves of the device -/

/-- What does not change while a device is written to, and what an interruption
uses up of its script. -/
structure Device.Precedes
    (device after : Device) (fault : Option Fault) : Prop where
  refusal : after.refusal = device.refusal
  script : after.script.length ≤ device.script.length
  interrupted :
    device.refusal.kind ≠ .interrupted →
      ∀ cause, fault = some cause → cause.kind = .interrupted →
        after.script.length < device.script.length

namespace Device

variable {device middle after : Device} {fault : Option Fault}

theorem Precedes.refl (device : Device) : device.Precedes device none := by
  refine ⟨rfl, Nat.le_refl _, ?_⟩
  intro _ cause nothing
  cases nothing

theorem Precedes.trans
    {early : Option Fault} (begins : device.Precedes middle early)
    (continues : middle.Precedes after fault) :
    device.Precedes after fault := by
  refine ⟨?_, ?_, ?_⟩
  · exact continues.refusal.trans begins.refusal
  · exact Nat.le_trans continues.script begins.script
  · intro finite cause caused interrupted
    rw [← begins.refusal] at finite
    exact
      Nat.lt_of_lt_of_le
        (continues.interrupted finite cause caused interrupted) begins.script

/-- Without a fault nothing interrupted. -/
theorem Precedes.settled
    (precedes : device.Precedes after fault) : device.Precedes after none := by
  refine ⟨precedes.refusal, precedes.script, ?_⟩
  intro _ cause nothing
  cases nothing

/-- Whatever interrupts, as long as the device does not end with it, stands in the
script. -/
theorem attempt_precedes (device : Device) (offered : Bytes) :
    (device.attempt offered).1.refusal = device.refusal ∧
      (device.attempt offered).1.script.length ≤ device.script.length ∧
      ((device.attempt offered).2 = .interrupted →
        (device.attempt offered).1.script.length < device.script.length) := by
  have frame := device.attempt_frame offered
  refine ⟨frame.refusal, ?_, ?_⟩
  · rw [attempt_script, List.length_tail]
    exact Nat.sub_le _ _
  · intro interrupted
    have scripted := script_ne_nil_of_interrupted interrupted
    have positive := List.length_pos_iff.mpr scripted
    rw [attempt_script, List.length_tail]
    omega

/-- No more is taken than was offered. -/
theorem count_attempt_le (device : Device) (offered : Bytes) :
    (device.attempt offered).2.count ≤ offered.length := by
  have taken : ∀ (device : Device) (limit : Option Nat),
      (device.take limit offered).2.count ≤ offered.length := by
    intro device limit
    exact
      Nat.le_trans (atMost_le _ _)
        (Nat.le_trans (atMost_le _ _) (atMost_le _ _))
  rw [attempt]
  split
  · exact Nat.zero_le _
  · simp only
    split <;> exact Nat.zero_le _
  · exact taken _ _
  · split
    · exact Nat.zero_le _
    · exact taken _ _

theorem drain_precedes (device : Device) (offered : Bytes) :
    device.Precedes (device.drain offered).1 (device.drain offered).2.2 ∧
      (device.drain offered).2.1 ≤ offered.length := by
  induction device, offered using Device.drain.induct with
  | case1 device offered empty =>
      rw [drain, if_pos empty]
      exact ⟨Precedes.refl device, Nat.zero_le _⟩
  | case2 device offered nonempty after attempted =>
      obtain ⟨refusal, script, shorter⟩ := device.attempt_precedes offered
      rw [attempted] at refusal script shorter
      rw [drain, if_neg nonempty, attempted]
      exact ⟨⟨refusal, script, fun _ _ _ _ => shorter rfl⟩, Nat.zero_le _⟩
  | case3 device offered nonempty after fault attempted =>
      obtain ⟨refusal, script, _⟩ := device.attempt_precedes offered
      rw [attempted] at refusal script
      rw [drain, if_neg nonempty, attempted]
      refine ⟨⟨refusal, script, ?_⟩, Nat.zero_le _⟩
      intro finite cause caused interrupted
      cases caused
      have final := refusal_of_attempt attempted interrupted
      exact absurd (final ▸ interrupted) finite
  | case4 device offered nonempty after attempted =>
      obtain ⟨refusal, script, _⟩ := device.attempt_precedes offered
      rw [attempted] at refusal script
      rw [drain, if_neg nonempty, attempted]
      refine ⟨⟨refusal, script, ?_⟩, Nat.zero_le _⟩
      intro _ cause nothing
      cases nothing
  | case5 device offered nonempty after count attempted _ _ _ _
      inductionHypothesis =>
      obtain ⟨refusal, script, _⟩ := device.attempt_precedes offered
      have count_le := device.count_attempt_le offered
      rw [attempted] at refusal script count_le
      obtain ⟨precedes, taken_le⟩ := inductionHypothesis
      have begins : device.Precedes after none := by
        refine ⟨refusal, script, ?_⟩
        intro _ cause nothing
        cases nothing
      rw [drain, if_neg nonempty, attempted]
      refine ⟨begins.trans precedes, ?_⟩
      rw [List.length_drop] at taken_le
      exact Nat.add_le_of_le_sub' count_le taken_le

end Device

/-! ## What a call accepts -/

namespace HostFile

variable {file after : HostFile} {data : Bytes}

theorem put_precedes (file : HostFile) (data : Bytes) :
    file.device.Precedes (file.put data).1.device (file.put data).2.2 ∧
      (file.put data).2.1 ≤ data.length := by
  have head_le : (data.take file.room).length ≤ data.length :=
    List.length_take_le' file.room data
  obtain ⟨emptied, _⟩ :=
    file.device.drain_precedes (file.held ++ data.take file.room)
  rw [put]
  simp only
  split
  · exact ⟨Device.Precedes.refl file.device, Nat.le_refl _⟩
  · split
    · refine ⟨⟨rfl, Nat.le_refl _, ?_⟩, head_le⟩
      rintro _ cause ⟨⟩ interrupted
      cases interrupted
    · split
      · exact ⟨emptied, head_le⟩
      -- What is held was written, and the rest goes out directly.
      · obtain ⟨written, _⟩ :=
          (file.device.drain
            (file.held ++ data.take file.room)).1.drain_precedes
              ((data.drop file.room).take
                (wholeBlocks file.capacity (data.drop file.room).length))
        have blocks :=
          wholeBlocks_le file.capacity (data.drop file.room).length
        have parts :
            (data.take file.room).length + (data.drop file.room).length =
              data.length := by
          rw [← List.length_append, List.take_append_drop]
        split
        · refine ⟨emptied.trans written, ?_⟩
          simp only
          omega
        · refine ⟨(emptied.trans written).settled, Nat.le_refl _⟩

end HostFile

/-! ## Call by call -/

/-- One call: what it offered, how much of it was accepted, and the error that is
current then. -/
structure Call where
  offered : Bytes
  count : Nat
  cause : Fault

namespace Call

/-- The bytes that a call got accepted. -/
def accepted (call : Call) : Bytes :=
  call.offered.take call.count

/-- Nothing was accepted, for another reason than an interruption. -/
def Fails (call : Call) : Prop :=
  call.count = 0 ∧ call.cause.kind ≠ .interrupted

end Call

/-- The bytes that calls got accepted. -/
def taken (calls : List Call) : Bytes :=
  calls.flatMap Call.accepted

@[simp]
theorem taken_nil : taken [] = [] := rfl

@[simp]
theorem taken_cons (call : Call) (calls : List Call) :
    taken (call :: calls) = call.accepted ++ taken calls := rfl

namespace HostFile

/-- Calls once with all of the data. -/
def call (file : HostFile) (data : Bytes) : HostFile × Call :=
  let (after, count, fault) := file.put data
  (after, ⟨data, count, fault.getD (.system 0)⟩)

/-- The calls of a whole writing, and the error that ended it if one did. -/
inductive Writing :
    HostFile → Bytes → List Call → HostFile → Option Fault → Prop where
  | done (file : HostFile) : Writing file [] [] file none
  | again {file last : HostFile} {data : Bytes} {calls : List Call}
      {fault : Option Fault} (nonempty : data ≠ [])
      (goes : ¬ (file.call data).2.Fails)
      (rest :
        Writing (file.call data).1 (data.drop (file.call data).2.count) calls
          last fault) :
      Writing file data ((file.call data).2 :: calls) last fault
  | failed {file : HostFile} {data : Bytes} (nonempty : data ≠ [])
      (fails : (file.call data).2.Fails) :
      Writing file data [(file.call data).2] (file.call data).1
        (some (file.call data).2.cause)

section Calls

variable {file last : HostFile} {data : Bytes} {calls : List Call}
  {fault : Option Fault}

/-- Every call decides how the writing goes on. -/
theorem Writing.unique
    (writing : Writing file data calls last fault) {others : List Call}
    {other : HostFile} {result : Option Fault}
    (too : Writing file data others other result) :
    others = calls ∧ other = last ∧ result = fault := by
  induction writing generalizing others other result with
  | done file =>
      cases too with
      | done => exact ⟨rfl, rfl, rfl⟩
      | again nonempty => exact absurd rfl nonempty
      | failed nonempty => exact absurd rfl nonempty
  | again nonempty goes _ inductionHypothesis =>
      cases too with
      | done => exact absurd rfl nonempty
      | again _ _ rest =>
          obtain ⟨sameCalls, sameFile, sameFault⟩ := inductionHypothesis rest
          exact ⟨congrArg _ sameCalls, sameFile, sameFault⟩
      | failed _ fails => exact absurd fails goes
  | failed nonempty fails =>
      cases too with
      | done => exact absurd rfl nonempty
      | again _ goes => exact absurd fails goes
      | failed => exact ⟨rfl, rfl, rfl⟩

/-- Without a buffer a call offers all of the data to the device. -/
theorem put_of_unbuffered
    {device : Device} {written : Nat} (writable : file.writable = true)
    (unbuffered : file.capacity = none) (idle : file.held = [])
    (drained : file.device.drain data = (device, written, fault))
    (short : written < data.length) :
    file.put data =
      ({ file with device, started := true }, written, fault) := by
  have room : file.room = 0 := by
    rw [HostFile.room, unbuffered]
    exact ite_eq_right_iff.mpr fun _ => Nat.zero_sub _
  have nonempty : data ≠ [] := by
    rintro rfl
    exact Nat.not_lt_zero _ short
  have nothing : file.device.drain [] = (file.device, 0, none) := by
    rw [Device.drain]
    rfl
  rw [put]
  simp [room, nonempty, writable, idle, nothing, wholeBlocks, unbuffered,
    drained, short]

/-- What the calls of a writing offer, and how it ends. -/
structure Written
    (data : Bytes) (calls : List Call) (fault : Option Fault) : Prop where
  /-- Each call offers exactly what those before it have left. -/
  offers : ∀ before call after, calls = before ++ call :: after →
    call.offered ≠ [] ∧ call.count ≤ call.offered.length ∧
      taken before ++ call.offered = data
  beginning : taken calls <+: data
  whole : fault = none ↔ taken calls = data
  fails : fault ≠ none ↔ ∃ call ∈ calls, call.Fails

theorem count_call_le (file : HostFile) (data : Bytes) :
    (file.call data).2.count ≤ data.length :=
  (file.put_precedes data).2

/-- The induction is on the calls; the first one offers all of the data and the
others what it left. -/
theorem Writing.written
    (writing : Writing file data calls last fault) :
    Written data calls fault := by
  induction writing with
  | done file =>
      refine ⟨?_, List.prefix_rfl, by simp, by simp⟩
      intro before call after split
      simp at split
  | @again file last data calls fault nonempty goes _ inductionHypothesis =>
      have parts :
          (file.call data).2.accepted ++
              data.drop (file.call data).2.count =
            data :=
        List.take_append_drop _ data
      refine ⟨?_, ?_, ?_, ?_⟩
      · intro before call after split
        rcases List.cons_eq_append_iff.mp split with
          ⟨rfl, same⟩ | ⟨earlier, rfl, later⟩
        · cases same
          exact ⟨nonempty, count_call_le file data, rfl⟩
        · obtain ⟨offers, within, rest⟩ :=
            inductionHypothesis.offers earlier call after later
          refine ⟨offers, within, ?_⟩
          rw [taken_cons, List.append_assoc, rest, parts]
      · obtain ⟨rest, split⟩ := inductionHypothesis.beginning
        refine ⟨rest, ?_⟩
        rw [taken_cons, List.append_assoc, split, parts]
      · rw [inductionHypothesis.whole, taken_cons,
          ← List.append_right_inj (file.call data).2.accepted, parts]
      · rw [inductionHypothesis.fails]
        simp only [List.mem_cons, exists_eq_or_imp, goes, false_or]
  | @failed file data nonempty fails =>
      have nothing : (file.call data).2.accepted = [] := by
        rw [Call.accepted, fails.1, List.take_zero]
      refine ⟨?_, ?_, ?_, ?_⟩
      · intro before call after split
        obtain ⟨rfl, same⟩ : before = [] ∧ call = (file.call data).2 := by
          cases before with
          | nil => simp_all
          | cons => simp at split
        rw [same]
        exact ⟨nonempty, count_call_le file data, rfl⟩
      · simp [nothing]
      · simp [nothing, nonempty.symm]
      · simp [fails]

/-- A call that accepts something or is interrupted is followed by another. -/
theorem Writing.of_put
    {after : HostFile} {count : Nat} {cause : Option Fault}
    (nonempty : data ≠ []) (put : file.put data = (after, count, cause))
    (goes : count = 0 → (cause.getD (.system 0)).kind = .interrupted)
    (rest : Writing after (data.drop count) calls last fault) :
    ∃ calls, Writing file data calls last fault := by
  have called :
      file.call data = (after, ⟨data, count, cause.getD (.system 0)⟩) := by
    rw [call, put]
  have again : ¬ (file.call data).2.Fails := by
    rw [called]
    exact fun fails => fails.2 (goes fails.1)
  have onwards :
      Writing (file.call data).1 (data.drop (file.call data).2.count) calls
        last fault := by
    rw [called]
    exact rest
  exact ⟨_, .again nonempty again onwards⟩

/-- The induction follows the calls.  What interrupts stands in the script of the
device, so an interruption that uses up nothing of it is none. -/
theorem print_writing
    (finite : file.device.refusal.kind ≠ .interrupted) (data : Bytes) :
    ∃ calls,
      Writing file data calls (file.print data).1 (file.print data).2 := by
  induction file, data using HostFile.print.induct with
  | case1 file data empty =>
      have nothing : data = [] := List.isEmpty_iff.mp empty
      rw [print, if_pos empty, nothing]
      exact ⟨[], .done file⟩
  | case2 file data nonempty after fault put cause retried inductionHypothesis =>
      have precedes := (file.put_precedes data).1
      rw [put] at precedes
      obtain ⟨calls, rest⟩ := inductionHypothesis (precedes.refusal ▸ finite)
      rw [print, if_neg nonempty, put]
      simp only
      rw [if_pos retried]
      exact Writing.of_put (by simpa using nonempty) put (fun _ => retried.1) rest
  | case3 file data nonempty after fault put cause ended =>
      have precedes := (file.put_precedes data).1
      rw [put] at precedes
      have fails : cause.kind ≠ .interrupted := by
        intro interrupted
        cases fault with
        | none => cases interrupted
        | some refused =>
            exact
              ended
                ⟨interrupted,
                  precedes.interrupted finite refused rfl interrupted⟩
      have called : file.call data = (after, ⟨data, 0, cause⟩) := by
        rw [call, put]
      have failed : Writing file data [⟨data, 0, cause⟩] after (some cause) := by
        have failed :=
          @Writing.failed file data (by simpa using nonempty) (by
            rw [called]
            exact ⟨rfl, fails⟩)
        rwa [called] at failed
      rw [print, if_neg nonempty, put]
      simp only
      rw [if_neg ended]
      exact ⟨_, failed⟩
  | case4 file data nonempty after count fault put inductionHypothesis =>
      have precedes := (file.put_precedes data).1
      rw [put] at precedes
      obtain ⟨calls, rest⟩ := inductionHypothesis (precedes.refusal ▸ finite)
      rw [print, if_neg nonempty, put]
      refine Writing.of_put (by simpa using nonempty) put ?_ rest
      exact fun nothing => absurd nothing (Nat.succ_ne_zero count)

/-- The writing leaves the way in which the device ends as it is. -/
theorem Writing.refusal
    (writing : Writing file data calls last fault) :
    last.device.refusal = file.device.refusal := by
  induction writing with
  | done file => rfl
  | @again file last data calls fault _ _ _ inductionHypothesis =>
      exact inductionHypothesis.trans (file.put_precedes data).1.refusal
  | @failed file data _ _ => exact (file.put_precedes data).1.refusal

end Calls

end HostFile

end SignalHub.Output
