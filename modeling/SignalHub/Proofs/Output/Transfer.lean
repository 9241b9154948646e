import SignalHub.Output.Transfer

/-!
# Writing to the end

Whatever a device does with the attempts, no byte is lost, doubled or moved:
what it took, followed by what is left, is what was offered.
-/

namespace SignalHub.Output

open Text

namespace Transfer

/-- The stream that a transfer belongs to. -/
def stream : Transfer → String
  | .wrote stream _ | .refused stream _ => stream
  | .flushed stream | .closed stream => stream

/-- The bytes that a transfer brings to the device. -/
def data : Transfer → Bytes
  | .wrote _ data => data
  | _ => []

/-- The device took something, or was only interrupted. -/
def Progresses : Transfer → Prop
  | .wrote _ data => data ≠ []
  | .refused _ kind => kind = .interrupted
  | _ => True

/-- A flush of the device. -/
def flushes : Transfer → Bool
  | .flushed _ => true
  | _ => false

/-- An attempt to write, whatever came of it. -/
def writes : Transfer → Bool
  | .wrote _ _ | .refused _ _ => true
  | .flushed _ | .closed _ => false

end Transfer

/-- The bytes that transfers bring to the device. -/
def accepted (transfers : List Transfer) : Bytes :=
  transfers.flatMap Transfer.data

@[simp]
theorem accepted_nil : accepted [] = [] := rfl

@[simp]
theorem accepted_cons (transfer : Transfer) (rest : List Transfer) :
    accepted (transfer :: rest) = transfer.data ++ accepted rest := rfl

@[simp]
theorem accepted_append (left right : List Transfer) :
    accepted (left ++ right) = accepted left ++ accepted right :=
  List.flatMap_append

/-- How often transfers flush the device. -/
def flushCount (transfers : List Transfer) : Nat :=
  transfers.countP Transfer.flushes

@[simp]
theorem flushCount_append (left right : List Transfer) :
    flushCount (left ++ right) = flushCount left + flushCount right :=
  List.countP_append

theorem flushCount_of_writes
    {transfers : List Transfer} (writes : transfers.all Transfer.writes) :
    flushCount transfers = 0 := by
  rw [flushCount, List.countP_eq_zero]
  intro transfer member
  have attempt := List.all_eq_true.mp writes transfer member
  cases transfer with
  | flushed => cases attempt
  | _ => exact Bool.false_ne_true

/-! ## One attempt -/

/-- How many bytes an attempt brought to the device. -/
def Attempt.count : Attempt → Nat
  | .took count => count
  | _ => 0

namespace Device

theorem content_attempt (device : Device) (offered : Bytes) :
    (device.attempt offered).1.content =
      device.content ++ offered.take (device.attempt offered).2.count := by
  obtain ⟨script, burst, room, refusal, flushFault, content, flushes⟩ := device
  rcases script with _ | ⟨_ | _ | _, rest⟩
  · simp only [attempt]
    split
    · exact (List.append_nil content).symm
    · rfl
  · exact (List.append_nil content).symm
  · simp only [attempt]
    split <;> exact (List.append_nil content).symm
  · rfl

/-- What a device answers to flushes, and how it refuses in the end, does not
depend on what was written. -/
structure Frames (device after : Device) : Prop where
  flushes : after.flushes = device.flushes
  flushFault : after.flushFault = device.flushFault
  refusal : after.refusal = device.refusal

theorem attempt_frame (device : Device) (offered : Bytes) :
    device.Frames (device.attempt offered).1 := by
  obtain ⟨script, burst, room, refusal, flushFault, content, flushes⟩ := device
  rcases script with _ | ⟨_ | _ | _, rest⟩
  · simp only [attempt]
    split <;> exact ⟨rfl, rfl, rfl⟩
  · exact ⟨rfl, rfl, rfl⟩
  · exact ⟨rfl, rfl, rfl⟩
  · exact ⟨rfl, rfl, rfl⟩

@[simp]
theorem Frames.refl (device : Device) : device.Frames device :=
  ⟨rfl, rfl, rfl⟩

theorem Frames.trans
    {first second third : Device} (begins : first.Frames second)
    (continues : second.Frames third) : first.Frames third :=
  ⟨continues.flushes.trans begins.flushes,
    continues.flushFault.trans begins.flushFault,
    continues.refusal.trans begins.refusal⟩

theorem Frames.flush
    {device after : Device} (frames : device.Frames after) :
    after.flush.2 = device.flush.2 := by
  rw [Device.flush, Device.flush, frames.flushes, frames.flushFault]
  cases device.flushes <;> rfl

/-- A flush uses up the first entry of its script, if there is one. -/
theorem flush_fst (device : Device) :
    device.flush.1 = { device with flushes := device.flushes.tail } := by
  obtain ⟨script, burst, room, refusal, flushFault, content, flushes⟩ := device
  cases flushes <;> rfl

/-- A flush that fails may succeed when it is tried again. -/
example (fault : Fault) :
    ({ Device.boundless with flushes := [some fault] }).flush.1.flush.2 =
      none :=
  rfl

/-- A refusal that is an interruption can only be the one that the device ends
with. -/
theorem refusal_of_attempt
    {device after : Device} {offered : Bytes} {fault : Fault}
    (attempted : device.attempt offered = (after, .refused fault))
    (interrupted : fault.kind = .interrupted) :
    fault = device.refusal := by
  obtain ⟨script, burst, room, refusal, flushFault, content, flushes⟩ := device
  rcases script with _ | ⟨_ | other | _, rest⟩
  · simp only [attempt] at attempted
    split at attempted
    · cases attempted
      rfl
    · cases attempted
  · cases attempted
  · simp only [attempt] at attempted
    split at attempted
    · cases attempted
    · cases attempted
      contradiction
  · cases attempted

end Device

/-! ## All attempts -/

section Attempts

variable {stream : String} {stuck : Fault} {device after : Device}
  {offered : Bytes}

theorem pour_of_empty (empty : offered.isEmpty = true) :
    pour stream stuck device offered = ⟨device, [], [], none⟩ := by
  rw [pour, if_pos empty]

theorem pour_of_interrupted
    (nonempty : ¬offered.isEmpty = true)
    (attempted : device.attempt offered = (after, .interrupted)) :
    pour stream stuck device offered =
      { pour stream stuck after offered with
          transfers :=
            .refused stream .interrupted ::
              (pour stream stuck after offered).transfers } := by
  rw [pour.eq_def, if_neg nonempty]
  split <;> simp_all

theorem pour_of_refused
    {fault : Fault} (nonempty : ¬offered.isEmpty = true)
    (attempted : device.attempt offered = (after, .refused fault)) :
    pour stream stuck device offered =
      ⟨after, [.refused stream fault.kind], offered, some fault⟩ := by
  rw [pour.eq_def, if_neg nonempty]
  split <;> simp_all

theorem pour_of_stuck
    (nonempty : ¬offered.isEmpty = true)
    (attempted : device.attempt offered = (after, .took 0)) :
    pour stream stuck device offered =
      ⟨after, [.wrote stream []], offered, some stuck⟩ := by
  rw [pour.eq_def, if_neg nonempty]
  split <;> simp_all

theorem pour_of_took
    {count : Nat} (nonempty : ¬offered.isEmpty = true)
    (attempted : device.attempt offered = (after, .took (count + 1))) :
    pour stream stuck device offered =
      { pour stream stuck after (offered.drop (count + 1)) with
          transfers :=
            .wrote stream (offered.take (count + 1)) ::
              (pour stream stuck after
                (offered.drop (count + 1))).transfers } := by
  rw [pour.eq_def, if_neg nonempty]
  split <;> simp_all

/-- A device without a script and without limits takes everything at once. -/
theorem pour_boundless
    (stream : String) (stuck : Fault) (nonempty : offered ≠ []) :
    pour stream stuck .boundless offered =
      ⟨{ Device.boundless with content := offered },
        [.wrote stream offered], [], none⟩ := by
  cases offered with
  | nil => exact absurd rfl nonempty
  | cons byte rest =>
      have took :
          Device.boundless.attempt (byte :: rest) =
            ({ Device.boundless with
                content := [] ++ (byte :: rest).take (rest.length + 1) },
              .took (rest.length + 1)) := rfl
      rw [pour_of_took (by simp) took, pour_of_empty (by simp)]
      simp

end Attempts

/-- What was written and what is left of an offer, as the device, the transfers
and the fault tell it. -/
structure Poured.Splits
    (poured : Poured) (stream : String) (device : Device) (offered : Bytes) :
    Prop where
  offer : accepted poured.transfers ++ poured.rest = offered
  content :
    poured.device.content = device.content ++ accepted poured.transfers
  fault : poured.fault = none ↔ poured.rest = []
  own : ∀ transfer ∈ poured.transfers, transfer.stream = stream
  frames : device.Frames poured.device

/-- The induction follows the attempts: each one takes a beginning of what is
offered, and the next one is made with the rest. -/
theorem pour_splits
    (stream : String) (stuck : Fault) (device : Device) (offered : Bytes) :
    (pour stream stuck device offered).Splits stream device offered := by
  induction device, offered using pour.induct stream stuck with
  | case1 device offered empty =>
      have nothing : offered = [] := List.isEmpty_iff.mp empty
      rw [pour_of_empty empty]
      constructor <;> simp [nothing]
  | case2 device offered nonempty after attempted inductionHypothesis =>
      have content := device.content_attempt offered
      have frame := device.attempt_frame offered
      simp only [attempted, Attempt.count, List.take_zero,
        List.append_nil] at content frame
      rw [pour_of_interrupted nonempty attempted]
      constructor
      · exact inductionHypothesis.offer
      · exact content ▸ inductionHypothesis.content
      · exact inductionHypothesis.fault
      · intro transfer member
        rcases List.mem_cons.mp member with rfl | later
        · rfl
        · exact inductionHypothesis.own transfer later
      · exact frame.trans inductionHypothesis.frames
  | case3 device offered nonempty after fault attempted =>
      have content := device.content_attempt offered
      have frame := device.attempt_frame offered
      simp only [attempted, Attempt.count, List.take_zero,
        List.append_nil] at content frame
      rw [pour_of_refused nonempty attempted]
      constructor <;>
        simp_all [Transfer.stream, Transfer.data, List.isEmpty_iff]
  | case4 device offered nonempty after attempted =>
      have content := device.content_attempt offered
      have frame := device.attempt_frame offered
      simp only [attempted, Attempt.count, List.take_zero,
        List.append_nil] at content frame
      rw [pour_of_stuck nonempty attempted]
      constructor <;>
        simp_all [Transfer.stream, Transfer.data, List.isEmpty_iff]
  | case5 device offered nonempty after count attempted inductionHypothesis =>
      have content := device.content_attempt offered
      have frame := device.attempt_frame offered
      simp only [attempted, Attempt.count] at content frame
      rw [pour_of_took nonempty attempted]
      constructor
      · have offer := inductionHypothesis.offer
        simp only [accepted_cons, Transfer.data, List.append_assoc, offer]
        exact List.take_append_drop (count + 1) offered
      · have later := inductionHypothesis.content
        simp only [accepted_cons, Transfer.data, later, content,
          List.append_assoc]
      · exact inductionHypothesis.fault
      · intro transfer member
        rcases List.mem_cons.mp member with rfl | later
        · rfl
        · exact inductionHypothesis.own transfer later
      · exact frame.trans inductionHypothesis.frames

/-- If the device always took something or was only interrupted for a while,
then nothing is left. -/
theorem pour_of_progress
    {stream : String} {stuck : Fault} {device : Device} {offered : Bytes}
    (finite : device.refusal.kind ≠ .interrupted)
    (progress :
      ∀ transfer ∈ (pour stream stuck device offered).transfers,
        transfer.Progresses) :
    (pour stream stuck device offered).fault = none := by
  induction device, offered using pour.induct stream stuck with
  | case1 device offered empty => rw [pour_of_empty empty]
  | case2 device offered nonempty after attempted inductionHypothesis =>
      have frame := device.attempt_frame offered
      rw [attempted] at frame
      rw [pour_of_interrupted nonempty attempted] at progress ⊢
      apply inductionHypothesis
      · rw [frame.refusal]
        exact finite
      · intro transfer member
        exact progress transfer (List.mem_cons_of_mem _ member)
  | case3 device offered nonempty after fault attempted =>
      rw [pour_of_refused nonempty attempted] at progress
      have interrupted : fault.kind = .interrupted :=
        progress _ List.mem_cons_self
      have final := Device.refusal_of_attempt attempted interrupted
      exact absurd (final ▸ interrupted) finite
  | case4 device offered nonempty after attempted =>
      rw [pour_of_stuck nonempty attempted] at progress
      exact absurd rfl (progress _ List.mem_cons_self)
  | case5 device offered nonempty after count attempted inductionHypothesis =>
      have frame := device.attempt_frame offered
      rw [attempted] at frame
      rw [pour_of_took nonempty attempted] at progress ⊢
      apply inductionHypothesis
      · rw [frame.refusal]
        exact finite
      · intro transfer member
        exact progress transfer (List.mem_cons_of_mem _ member)

/-- Whatever is refused for good leaves a fault. -/
theorem progress_of_pour
    {stream : String} {stuck : Fault} {device : Device} {offered : Bytes}
    (finished : (pour stream stuck device offered).fault = none) :
    ∀ transfer ∈ (pour stream stuck device offered).transfers,
      transfer.Progresses := by
  induction device, offered using pour.induct stream stuck with
  | case1 device offered empty =>
      rw [pour_of_empty empty]
      exact List.forall_mem_nil _
  | case2 device offered nonempty after attempted inductionHypothesis =>
      rw [pour_of_interrupted nonempty attempted] at finished ⊢
      exact List.forall_mem_cons.mpr ⟨rfl, inductionHypothesis finished⟩
  | case3 device offered nonempty after fault attempted =>
      rw [pour_of_refused nonempty attempted] at finished
      cases finished
  | case4 device offered nonempty after attempted =>
      rw [pour_of_stuck nonempty attempted] at finished
      cases finished
  | case5 device offered nonempty after count attempted inductionHypothesis =>
      rw [pour_of_took nonempty attempted] at finished ⊢
      refine List.forall_mem_cons.mpr ⟨?_, inductionHypothesis finished⟩
      rw [List.isEmpty_iff] at nonempty
      simp [Transfer.Progresses, nonempty]

/-- Writing to the end neither flushes nor closes. -/
theorem pour_writes
    (stream : String) (stuck : Fault) (device : Device) (offered : Bytes) :
    (pour stream stuck device offered).transfers.all Transfer.writes := by
  induction device, offered using pour.induct stream stuck with
  | case1 device offered empty =>
      rw [pour_of_empty empty]
      rfl
  | case2 device offered nonempty after attempted inductionHypothesis =>
      rw [pour_of_interrupted nonempty attempted]
      exact inductionHypothesis
  | case3 device offered nonempty after fault attempted =>
      rw [pour_of_refused nonempty attempted]
      rfl
  | case4 device offered nonempty after attempted =>
      rw [pour_of_stuck nonempty attempted]
      rfl
  | case5 device offered nonempty after count attempted inductionHypothesis =>
      rw [pour_of_took nonempty attempted]
      exact inductionHypothesis

end SignalHub.Output
