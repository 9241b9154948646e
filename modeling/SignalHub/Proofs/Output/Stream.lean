import SignalHub.Output.Stream
import SignalHub.Proofs.Output.Transfer

/-!
# The bytes of a stream

What the device took followed by what is held back changes by whole chunks at
the end: by a printed text if that succeeded, by a proper beginning of it if it
failed, and by nothing when the stream is flushed.
-/

namespace SignalHub.Output

open Text

namespace Stream

/-- Only a buffer holds bytes back. -/
def Sound (stream : Stream) : Prop :=
  stream.capacity = none → stream.held = []

/-- After these transfers the stream has this chunk more, and is otherwise the
one that it was. -/
structure Adds
    (stream after : Stream) (transfers : List Transfer) (chunk : Bytes) :
    Prop where
  content : stream.Sound → after.content = stream.content ++ chunk
  device :
    after.device.content = stream.device.content ++ accepted transfers
  own : ∀ transfer ∈ transfers, transfer.stream = stream.name
  name : after.name = stream.name
  capacity : after.capacity = stream.capacity
  flushFault : after.device.flushFault = stream.device.flushFault
  refusal : after.device.refusal = stream.device.refusal
  /-- One answer of the script is used up by each flush of the device. -/
  flushes :
    after.device.flushes = stream.device.flushes.drop (flushCount transfers)
  sound : stream.Sound → after.Sound

theorem Adds.refl (stream : Stream) : stream.Adds stream [] [] := by
  constructor
  · exact fun _ => (List.append_nil _).symm
  · exact (List.append_nil _).symm
  · exact List.forall_mem_nil _
  · rfl
  · rfl
  · rfl
  · rfl
  · rfl
  · exact id

/-- Flushing the device adds nothing. -/
theorem Adds.of_flush (stream : Stream) :
    stream.Adds { stream with device := stream.device.flush.1 }
      [.flushed stream.name] [] := by
  rw [Device.flush_fst]
  constructor
  · exact fun _ => (List.append_nil _).symm
  · exact (List.append_nil _).symm
  · intro transfer member
    rw [List.mem_singleton.mp member]
    rfl
  · rfl
  · rfl
  · rfl
  · rfl
  · exact List.drop_one.symm
  · exact id

theorem Adds.trans
    {first second third : Stream} {early late : List Transfer}
    {left right : Bytes}
    (begins : first.Adds second early left)
    (continues : second.Adds third late right) :
    first.Adds third (early ++ late) (left ++ right) := by
  constructor
  · intro sound
    rw [continues.content (begins.sound sound), begins.content sound,
      List.append_assoc]
  · rw [continues.device, begins.device, accepted_append, List.append_assoc]
  · intro transfer member
    rcases List.mem_append.mp member with before | after
    · exact begins.own transfer before
    · exact (continues.own transfer after).trans begins.name
  · exact continues.name.trans begins.name
  · exact continues.capacity.trans begins.capacity
  · exact continues.flushFault.trans begins.flushFault
  · exact continues.refusal.trans begins.refusal
  · rw [continues.flushes, begins.flushes, List.drop_drop, flushCount_append]
  · exact fun sound => continues.sound (begins.sound sound)

/-! ## Writing out and past -/

section Writing

variable {stream after : Stream} {transfers : List Transfer}
  {fault : Option Fault}

theorem writeOut_adds
    (written : stream.writeOut = (after, transfers, fault)) :
    stream.Adds after transfers [] ∧
      accepted transfers ++ after.held = stream.held ∧
        (fault = none ↔ after.held = []) := by
  have splits :=
    pour_splits stream.name .heldUnwritten stream.device stream.held
  cases written
  refine ⟨?_, splits.offer, splits.fault⟩
  constructor
  · intro _
    simp only [content, splits.content, List.append_assoc, splits.offer,
      List.append_nil]
  · exact splits.content
  · exact splits.own
  · rfl
  · rfl
  · exact splits.frames.flushFault
  · exact splits.frames.refusal
  · rw [flushCount_of_writes (pour_writes _ _ _ _)]
    exact splits.frames.flushes
  · intro sound bare
    have nothing := splits.offer.trans (sound bare)
    exact (List.append_eq_nil_iff.mp nothing).2

theorem writeOut_frames
    (written : stream.writeOut = (after, transfers, fault)) :
    stream.device.Frames after.device := by
  cases written
  exact (pour_splits _ _ _ _).frames

/-- A device that keeps taking something gets everything that was held
back. -/
theorem writeOut_of_progress
    (finite : stream.device.refusal.kind ≠ .interrupted)
    (written : stream.writeOut = (after, transfers, fault))
    (progress : ∀ transfer ∈ transfers, transfer.Progresses) :
    fault = none ∧ after.held = [] := by
  obtain ⟨_, _, outcome⟩ := writeOut_adds written
  have succeeded : fault = none := by
    cases written
    exact pour_of_progress finite progress
  exact ⟨succeeded, outcome.mp succeeded⟩

/-- Nothing may be held back by then, or nothing new be written. -/
theorem writeThrough_adds
    {data : Bytes} (idle : stream.Sound → stream.held = [] ∨ data = [])
    (written : stream.writeThrough data = (after, transfers, fault)) :
    ∃ chunk,
      stream.Adds after transfers chunk ∧
        chunk <+: data ∧ (fault = none ↔ chunk = data) := by
  have splits := pour_splits stream.name .textUnwritten stream.device data
  cases written
  refine ⟨_, ?_, ⟨_, splits.offer⟩, ?_⟩
  · constructor
    · intro sound
      have order :
          accepted
                (pour stream.name .textUnwritten stream.device
                  data).transfers ++ stream.held =
            stream.held ++
              accepted
                (pour stream.name .textUnwritten stream.device
                  data).transfers := by
        rcases idle sound with empty | nothing
        · rw [empty, List.append_nil, List.nil_append]
        · have offer := splits.offer
          rw [nothing] at offer ⊢
          rw [(List.append_eq_nil_iff.mp offer).1, List.append_nil,
            List.nil_append]
      simp only [content, splits.content, List.append_assoc, order]
    · exact splits.content
    · exact splits.own
    · rfl
    · rfl
    · exact splits.frames.flushFault
    · exact splits.frames.refusal
    · rw [flushCount_of_writes (pour_writes _ _ _ _)]
      exact splits.frames.flushes
    · exact fun sound => sound
  · rw [splits.fault]
    constructor
    · intro finished
      have offer := splits.offer
      rw [finished, List.append_nil] at offer
      exact offer
    · intro whole
      have offer := splits.offer
      rw [whole] at offer
      exact List.append_right_eq_self.mp offer

theorem keep_adds
    (buffered : stream.capacity ≠ none) (data : Bytes) :
    stream.Adds (stream.keep data) [] data := by
  constructor
  · exact fun _ => (List.append_assoc _ _ _).symm
  · exact (List.append_nil _).symm
  · exact List.forall_mem_nil _
  · rfl
  · rfl
  · rfl
  · rfl
  · rfl
  · exact fun _ bare => absurd bare buffered

theorem place_adds
    {capacity : Nat} {data : Bytes} (buffered : stream.capacity ≠ none)
    (idle : stream.held = [] ∨ data = [] ∨ data.length < capacity)
    (placed : stream.place capacity data = (after, transfers, fault)) :
    ∃ chunk,
      stream.Adds after transfers chunk ∧
        chunk <+: data ∧ (fault = none ↔ chunk = data) := by
  rw [place] at placed
  split at placed
  · apply writeThrough_adds _ placed
    intro _
    rcases idle with empty | nothing | short
    · exact Or.inl empty
    · exact Or.inr nothing
    · omega
  · cases placed
    refine ⟨data, keep_adds buffered data, List.prefix_rfl, ?_⟩
    simp

end Writing

/-! ## Printing and flushing -/

section Printing

variable {stream after : Stream} {transfers : List Transfer}
  {fault : Option Fault}

/-- The cases are those of the buffer: none at all, data that is kept, data
that just fits, and data for which the held bytes must be written out first,
which may fail. -/
theorem print_adds
    {data : Bytes}
    (printed : stream.print data = (after, transfers, fault)) :
    ∃ chunk,
      stream.Adds after transfers chunk ∧
        chunk <+: data ∧ (fault = none ↔ chunk = data) := by
  rw [print] at printed
  cases buffer : stream.capacity with
  | none =>
      rw [buffer] at printed
      exact writeThrough_adds (fun sound => Or.inl (sound buffer)) printed
  | some capacity =>
      have buffered : stream.capacity ≠ none := by
        rw [buffer]
        exact Option.some_ne_none capacity
      rw [buffer] at printed
      simp only at printed
      split at printed
      · cases printed
        refine ⟨data, keep_adds buffered data, List.prefix_rfl, ?_⟩
        simp
      · split at printed
        · apply place_adds buffered _ printed
          have empty : stream.held = [] ↔ stream.held.length = 0 :=
            List.length_eq_zero_iff.symm
          have nothing : data = [] ↔ data.length = 0 :=
            List.length_eq_zero_iff.symm
          rw [empty, nothing]
          omega
        · split at printed
          · rename_i emptied early cause written
            obtain ⟨adds, _, outcome⟩ := writeOut_adds written
            cases printed
            refine ⟨[], adds, List.nil_prefix, ?_⟩
            have nonempty : data ≠ [] := by
              apply List.ne_nil_of_length_pos
              omega
            simp [nonempty.symm]
          · rename_i emptied early written
            obtain ⟨begins, _, outcome⟩ := writeOut_adds written
            have empty := outcome.mp rfl
            cases placed : emptied.place capacity data with
            | mk last result =>
                obtain ⟨late, verdict⟩ := result
                have still : emptied.capacity ≠ none := by
                  rw [begins.capacity]
                  exact buffered
                obtain ⟨chunk, continues, beginning, whole⟩ :=
                  place_adds still (Or.inl empty) placed
                rw [placed] at printed
                cases printed
                refine ⟨chunk, ?_, beginning, whole⟩
                exact begins.trans continues

/-- The stream whose device is flushed, if nothing went wrong before. -/
def flushedUnless (stream : Stream) (fault : Option Fault) : Stream :=
  match fault with
  | none => { stream with device := stream.device.flush.1 }
  | some _ => stream

@[simp]
theorem held_flushedUnless (stream : Stream) (fault : Option Fault) :
    (stream.flushedUnless fault).held = stream.held := by
  cases fault <;> rfl

@[simp]
theorem name_flushedUnless (stream : Stream) (fault : Option Fault) :
    (stream.flushedUnless fault).name = stream.name := by
  cases fault <;> rfl

@[simp]
theorem capacity_flushedUnless (stream : Stream) (fault : Option Fault) :
    (stream.flushedUnless fault).capacity = stream.capacity := by
  cases fault <;> rfl

@[simp]
theorem content_flushedUnless (stream : Stream) (fault : Option Fault) :
    (stream.flushedUnless fault).device.content = stream.device.content := by
  cases fault with
  | none => rw [flushedUnless, Device.flush_fst]
  | some cause => rfl

theorem flushedUnless_of_unscripted
    (unscripted : stream.device.flushes = []) (fault : Option Fault) :
    stream.flushedUnless fault = stream := by
  cases fault with
  | some cause => rfl
  | none =>
      have still : stream.device.flush.1 = stream.device := by
        rw [Device.flush, unscripted]
      rw [flushedUnless, still]

/-- A flush is an attempt to write out and, if that succeeded, a flush of the
device. -/
theorem flush_of_writeOut
    (written : stream.writeOut = (after, transfers, fault)) :
    stream.flush =
      (after.flushedUnless fault,
        transfers ++ (if fault = none then [.flushed stream.name] else []),
        fault.or stream.device.flush.2) := by
  have frames := writeOut_frames written
  rw [flush, written]
  cases fault with
  | some cause => simp [flushedUnless]
  | none => simp [flushedUnless, frames.flush]

/-- A flush adds nothing, and succeeds exactly if nothing is held back after it
and the device agrees. -/
theorem flush_adds
    (flushed : stream.flush = (after, transfers, fault)) :
    stream.Adds after transfers [] ∧
      accepted transfers ++ after.held = stream.held ∧
        (fault = none ↔
          after.held = [] ∧ stream.device.flush.2 = none) := by
  cases written : stream.writeOut with
  | mk emptied result =>
      obtain ⟨early, cause⟩ := result
      obtain ⟨adds, split, outcome⟩ := writeOut_adds written
      have marked :
          emptied.Adds (emptied.flushedUnless cause)
            (if cause = none then [.flushed stream.name] else []) [] := by
        cases cause with
        | none =>
            rw [← adds.name]
            exact Adds.of_flush emptied
        | some _ => exact Adds.refl emptied
      rw [flush_of_writeOut written] at flushed
      cases flushed
      refine ⟨adds.trans marked, ?_, ?_⟩
      · have silent :
            accepted
                (if cause = none then [.flushed stream.name] else []) =
              [] := by
          split <;> rfl
        rw [accepted_append, silent, List.append_nil, held_flushedUnless]
        exact split
      · rw [held_flushedUnless, ← outcome, Option.or_eq_none_iff]

/-- A print neither flushes nor closes. -/
theorem print_writes (stream : Stream) (data : Bytes) :
    (stream.print data).2.1.all Transfer.writes := by
  have placed : ∀ (stream : Stream) (capacity : Nat),
      (stream.place capacity data).2.1.all Transfer.writes := by
    intro stream capacity
    rw [place]
    split
    · exact pour_writes _ _ _ _
    · rfl
  have wroteOut : stream.writeOut.2.1.all Transfer.writes :=
    pour_writes _ _ _ _
  rw [print]
  cases stream.capacity with
  | none => exact pour_writes _ _ _ _
  | some capacity =>
      simp only
      split
      · rfl
      · split
        · exact placed stream capacity
        · split
          · rename_i written
            rw [written] at wroteOut
            exact wroteOut
          · rename_i written
            rw [written] at wroteOut
            rw [List.all_append, Bool.and_eq_true]
            exact ⟨wroteOut, placed _ capacity⟩

end Printing

/-! ## An empty buffer -/

section Idle

variable {stream : Stream} (idle : stream.held = [])

include idle

theorem writeOut_of_idle : stream.writeOut = (stream, [], none) := by
  have empty : stream.held.isEmpty = true := List.isEmpty_iff.mpr idle
  rw [writeOut, pour_of_empty empty, ← idle]

/-- There is nothing to write out first: what is shorter than the buffer is
kept, and anything else is written past it. -/
theorem print_of_idle
    {capacity : Nat} (buffer : stream.capacity = some capacity)
    (data : Bytes) :
    stream.print data =
      if data.length < capacity then (stream.keep data, [], none)
      else stream.writeThrough data := by
  simp only [print, buffer, idle, List.length_nil, Nat.sub_zero,
    writeOut_of_idle idle, place, List.nil_append]
  by_cases short : data.length < capacity
  · rw [if_pos short, if_pos short]
  · rw [if_neg short, if_neg short, if_pos (Nat.le_of_not_lt short)]
    exact ite_self _

theorem flush_of_idle :
    stream.flush =
      ({ stream with device := stream.device.flush.1 },
        [.flushed stream.name], stream.device.flush.2) := by
  rw [flush, writeOut_of_idle idle]
  rfl

end Idle

/-! ## The end of a stream -/

section End

variable {stream after : Stream} {transfers : List Transfer}
  {fault : Option Fault}

theorem close_of_writeOut
    (written : stream.writeOut = (after, transfers, fault)) :
    stream.close = (after, transfers ++ [.closed stream.name]) := by
  rw [close, written]

/-- A flush of the device alone changes nothing about the end. -/
theorem close_flushedUnless
    (written : stream.writeOut = (after, transfers, fault)) :
    (after.flushedUnless fault).close.2 = after.close.2 := by
  obtain ⟨_, _, outcome⟩ := writeOut_adds written
  cases fault with
  | some cause => rfl
  | none =>
      have idle := outcome.mp rfl
      have idleThen : (after.flushedUnless none).held = [] := by
        rw [held_flushedUnless, idle]
      rw [close_of_writeOut (writeOut_of_idle idle),
        close_of_writeOut (writeOut_of_idle idleThen), name_flushedUnless]

theorem close_splits (stream : Stream) :
    accepted stream.close.2 ++ stream.close.1.held = stream.held ∧
      ∀ transfer ∈ stream.close.2, transfer.stream = stream.name := by
  cases written : stream.writeOut with
  | mk after result =>
      obtain ⟨transfers, fault⟩ := result
      obtain ⟨adds, split, _⟩ := writeOut_adds written
      rw [close_of_writeOut written]
      refine ⟨?_, ?_⟩
      · simpa [Transfer.data] using split
      · intro transfer member
        rcases List.mem_append.mp member with before | last
        · exact adds.own transfer before
        · rw [List.mem_singleton.mp last]
          rfl

/-- From a last flush to the end a stream writes its held bytes, in order and
as far as its device takes them. -/
theorem end_splits
    (flushed : stream.flush = (after, transfers, fault)) :
    accepted (transfers ++ after.close.2) ++ after.close.1.held =
        stream.held ∧
      ∀ transfer ∈ transfers ++ after.close.2,
        transfer.stream = stream.name := by
  obtain ⟨adds, split, _⟩ := flush_adds flushed
  obtain ⟨rest, own⟩ := close_splits after
  refine ⟨?_, ?_⟩
  · rw [accepted_append, List.append_assoc, rest, split]
  · intro transfer member
    rcases List.mem_append.mp member with before | last
    · exact adds.own transfer before
    · exact (own transfer last).trans adds.name

end End

end Stream

end SignalHub.Output
