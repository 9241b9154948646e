import SignalHub.Proofs.Output.Writing
import SignalHub.Proofs.Session.Printing
import SignalHub.Proofs.Session.Recording

/-!
# Prints from the foreign side

A print from the foreign side does to the target what a native print of the same
text does.  It reports the number of bytes if the target took all of them, and
otherwise a negative number and one record; what was taken by then stays taken.
-/

namespace SignalHub

open Output Text

/-! ## What a target takes -/

namespace Output.Channel

/-- What the target of a channel took of the data that it was offered.  It stays
the target. -/
inductive Took
    (channel after : Channel) (ports portsAfter : Ports) (trace : Trace)
    (data : Bytes) : Bytes → Prop where
  | screen (here : channel.current = .screen)
      (stays : after = ⟨some .screen⟩) (shown : trace.shown = data) :
      Took channel after ports portsAfter trace data data
  /-- A stream may hold back some of what it took. -/
  | stream {stream next : Stream} {chunk : Bytes}
      (here : channel.current = .stream stream)
      (stays : after = ⟨some (.stream next)⟩)
      (adds : stream.Adds next trace.transfers chunk)
      (content : next.content = stream.content ++ chunk) :
      Took channel after ports portsAfter trace data chunk
  /-- A file of the host took what its calls got accepted. -/
  | file {name : String} {calls : List Call} {fault : Option Fault}
      (here : channel.current = .file name)
      (stays : after = ⟨some (.file name)⟩)
      (writing :
        HostFile.Writing (ports.file name) data calls (portsAfter.file name)
          fault) :
      Took channel after ports portsAfter trace data (taken calls)

/-- What was taken shows in the traffic, on standard output and in the files. -/
theorem Took.of_same
    {channel after : Channel} {ports portsAfter portsToo : Ports}
    {trace seen : Trace} {data chunk : Bytes}
    (took : Took channel after ports portsAfter trace data chunk)
    (files : portsToo.files = portsAfter.files)
    (transfers : seen.transfers = trace.transfers)
    (shown : seen.shown = trace.shown) :
    Took channel after ports portsToo seen data chunk := by
  cases took with
  | screen here stays whole => exact .screen here stays (shown.trans whole)
  | stream here stays adds content =>
      exact .stream here stays (transfers.symm ▸ adds) content
  | @file name calls fault here stays writing =>
      have same : portsToo.file name = portsAfter.file name := by
        rw [Ports.file, Ports.file, Ports.file?, Ports.file?, files]
      exact .file here stays (same.symm ▸ writing)

/-- A stream without a buffer holds nothing back, and a file does not interrupt for
ever. -/
structure Orderly (channel : Channel) (ports : Ports) : Prop where
  sound : ∀ stream, channel.current = .stream stream → stream.Sound
  finite : ∀ name, channel.current = .file name →
    (ports.file name).device.refusal.kind ≠ .interrupted

/-- A print records nothing. -/
theorem records_print (channel : Channel) (ports : Ports) (data : Bytes) :
    Trace.records (channel.print ports data).2.2.1 = [] := by
  apply Trace.filterMap_of_kind _ (channel.output_print ports data)
  intro event output
  cases event <;> first | rfl | cases output

section Print

variable {channel : Channel} {ports : Ports}

/-- Whatever the target is, it takes a beginning of the data, and all of it exactly
if it reports no fault. -/
theorem Orderly.print (orderly : channel.Orderly ports) (data : Bytes) :
    ∃ chunk fault,
      Took channel (channel.print ports data).1 ports
          (channel.print ports data).2.1 (channel.print ports data).2.2.1 data
          chunk ∧
        (channel.print ports data).1.Orderly (channel.print ports data).2.1 ∧
        (channel.print ports data).2.2.2 = outcome data fault ∧
        chunk <+: data ∧ (fault = none ↔ chunk = data) := by
  cases here : channel.current with
  | screen =>
      have printed :
          channel.print ports data =
            (⟨some .screen⟩,
              { ports with screen := ports.screen.print data },
              [.shown data], .ok data.length) := by
        rw [Channel.print, here]
      rw [printed]
      refine ⟨data, none, ?_, ?_, rfl, List.prefix_rfl, by simp⟩
      · exact .screen here rfl (List.append_nil data)
      · constructor <;> rintro _ ⟨⟩
  | stream stream =>
      cases outcome : stream.print data with
      | mk next result =>
          obtain ⟨transfers, fault⟩ := result
          obtain ⟨chunk, adds, beginning, whole⟩ := Stream.print_adds outcome
          have sound := orderly.sound stream here
          have printed :
              channel.print ports data =
                (⟨some (.stream next)⟩, ports, transfers.map .transfer,
                  Channel.outcome data fault) := by
            rw [Channel.print, here]
            simp only [outcome]
          rw [printed]
          refine ⟨chunk, fault, ?_, ?_, rfl, beginning, whole⟩
          · refine .stream here rfl ?_ (adds.content sound)
            rw [Trace.transfers_map]
            exact adds
          · constructor <;> rintro _ ⟨⟩
            exact adds.sound sound
  | file name =>
      have finite := orderly.finite name here
      obtain ⟨calls, writing⟩ := HostFile.print_writing finite data
      have printed :
          channel.print ports data =
            (⟨some (.file name)⟩,
              ports.setFile name ((ports.file name).print data).1, [],
              outcome data ((ports.file name).print data).2) := by
        rw [Channel.print, here]
      have kept :=
        ports.file_setFile name ((ports.file name).print data).1
      rw [printed]
      refine ⟨taken calls, _, ?_, ?_, rfl, writing.written.beginning,
        writing.written.whole⟩
      · exact .file here rfl (kept.symm ▸ writing)
      · constructor <;> rintro _ ⟨⟩
        rw [kept, writing.refusal]
        exact finite

end Print

end Output.Channel

/-! ## The call -/

/-- The locks of a reader are no records. -/
theorem Trace.unrecorded_reading (scope : Scope) (trace : Trace) :
    (reading scope trace).filter Event.isUnrecorded =
      reading scope (trace.filter Event.isUnrecorded) := by
  cases scope with
  | own => rfl
  | shared =>
      rw [reading, List.cons_append, List.filter_cons_of_pos rfl,
        List.filter_append]
      rfl

namespace Foreign

/-- The number that a foreign print reports. -/
def countOf : Except Fault Nat → Int
  | .ok count => (min count printMaximum : Nat)
  | .error _ => -1

/-- What a foreign print notes of its outcome. -/
def noteOf : Except Fault Nat → Trace
  | .ok _ => []
  | .error _ => [.record printRecord]

section Note

variable (result : Except Fault Nat)

@[simp]
theorem transfers_noteOf : Trace.transfers (noteOf result) = [] := by
  cases result <;> rfl

@[simp]
theorem shown_noteOf : Trace.shown (noteOf result) = [] := by
  cases result <;> rfl

@[simp]
theorem records_noteOf :
    Trace.records (noteOf result) =
      if result.isOk then [] else [printRecord] := by
  cases result <;> rfl

@[simp]
theorem unrecorded_noteOf :
    (noteOf result).filter Event.isUnrecorded = [] := by
  cases result <;> rfl

end Note

/-- A foreign print puts the text on the target as any print does, and reports the
outcome. -/
theorem print_eq (host : Host) (message : Option Bytes) :
    print host message =
      ((host.printBytes .shared (bytes (incoming message))).1,
        Trace.reading .shared
          (.formatted 1 false ::
            (host.printBytes .shared (bytes (incoming message))).2.1 ++
              noteOf (host.printBytes .shared (bytes (incoming message))).2.2),
        countOf (host.printBytes .shared (bytes (incoming message))).2.2) := by
  rw [print, Session.printReading_text]
  cases (host.printBytes .shared (bytes (incoming message))).2.2 with
  | ok count =>
      rw [noteOf, List.append_nil]
      rfl
  | error fault => rfl

end Foreign

namespace Session

/-- The records that a foreign print leaves. -/
def printRecords (maximum : Verbosity) (whole : Bool) : List Record :=
  if !whole && maximum.admits .debug then [Foreign.printRecord] else []

theorem admitted_printRecord (maximum : Verbosity) (whole : Bool) :
    (if whole then [] else [Foreign.printRecord]).filter
        (fun record => maximum.admits record.level) =
      printRecords maximum whole := by
  have level : Foreign.printRecord.level = .debug := rfl
  rw [printRecords]
  cases whole with
  | true => rfl
  | false =>
      cases admitted : maximum.admits .debug <;>
        simp [level, admitted]

/-- A session like this one, for the hub that all share. -/
def onShared (session : Session) : Session :=
  { session with scope := .shared }

/-- What a foreign print of a text does, when the target takes this chunk of it. -/
structure PrintsForeign
    (session after : Session) (text : String) (answer : Answer)
    (chunk : Bytes) : Prop where
  took :
    Channel.Took session.host.shared.channel after.host.shared.channel
      session.host.ports after.host.ports answer.trace (bytes text) chunk
  beginning : chunk <+: bytes text
  /-- The reply is no negative number exactly if all was taken. -/
  counts : answer.reply.counts = true ↔ chunk = bytes text
  count : chunk = bytes text →
    answer.reply = .number (min (bytes text).length 2147483647 : Nat)
  fails : chunk ≠ bytes text → answer.reply = .number (-1)
  records :
    answer.trace.records =
      printRecords session.maximum (decide (chunk = bytes text))
  /-- The native print leaves and shows the same, but for that record. -/
  nativeNext :
    session.onShared.next (.print (Message.text text)) =
      some after.onShared
  nativeSeen :
    { (session.onShared.answer (.print (Message.text text))).unrecorded with
        reply := answer.reply } =
      answer.unrecorded
  /-- The next print meets the target as it was left. -/
  orderly :
    after.host.shared.channel.Orderly after.host.ports

section Print

variable {session : Session} {message : Option Bytes} {channel : Channel}
  {ports : Ports} {trace : Trace} {result : Except Fault Nat}

section Performed

variable
  (printed :
    session.host.shared.channel.print session.host.ports
        (bytes (incoming message)) =
      (channel, ports, trace, result))

include printed

theorem perform_foreign_print :
    session.perform (.foreign (.print message)) =
      ({ session with
          host := (session.onShared.withOutput channel ports).host },
        Trace.reading .shared
          (.formatted 1 false :: Trace.holding (.channel .shared) trace ++
            Foreign.noteOf result),
        .number (Foreign.countOf result)) := by
  have answered := Foreign.print_eq session.host message
  simp only [Host.printBytes, Host.hub, printed] at answered
  simp only [perform, Host.answer, answered]
  rfl

theorem perform_native_print :
    session.onShared.perform (.print (Message.text (incoming message))) =
      (session.onShared.withOutput channel ports,
        Trace.reading .shared
          (.formatted 1 false :: Trace.holding (.channel .shared) trace),
        .ofCount (result.mapError .output)) := by
  have collected := collect_text (incoming message)
  have same : Step.printed (Message.text (incoming message)) =
      bytes (incoming message) := by
    rw [Step.printed, collected]
  have performed :=
    session.onShared.perform_print (congrArg Formatted.succeeded collected)
  have shared :
      session.onShared.hub.channel.print session.onShared.host.ports
          (bytes (incoming message)) =
        (channel, ports, trace, result) :=
    printed
  rw [same, shared, collected] at performed
  exact performed

end Performed

theorem print_foreign
    (orderly : session.host.shared.channel.Orderly session.host.ports)
    (message : Option Bytes) :
    ∃ after chunk,
      session.next (.foreign (.print message)) = some after ∧
        PrintsForeign session after (incoming message)
          (session.answer (.foreign (.print message))) chunk := by
  obtain ⟨chunk, fault, took, still, outcome, beginning, whole⟩ :=
    orderly.print (bytes (incoming message))
  cases printed : session.host.shared.channel.print session.host.ports
      (bytes (incoming message)) with
  | mk channel rest =>
      obtain ⟨ports, trace, result⟩ := rest
      have performed := perform_foreign_print printed
      have native := perform_native_print printed
      have silent :=
        session.host.shared.channel.records_print session.host.ports
          (bytes (incoming message))
      rw [printed] at took still outcome silent
      simp only at took still outcome silent
      refine ⟨_, chunk, next_of_reply performed Reply.noConfusion, ?_⟩
      rw [answer, performed, answerOf_of_goesOn Reply.noConfusion]
      constructor
      · refine took.of_same ?_ ?_ ?_
        · rfl
        · simp only [Trace.transfers_upTo, Trace.transfers_reading,
            Trace.transfers_formatted, Trace.transfers_append,
            Trace.transfers_holding, Foreign.transfers_noteOf,
            List.append_nil, List.cons_append]
        · simp only [Trace.shown_upTo, Trace.shown_reading,
            Trace.shown_formatted, Trace.shown_append, Trace.shown_holding,
            Foreign.shown_noteOf, List.append_nil, List.cons_append]
      · exact beginning
      · rw [← whole, outcome]
        cases fault <;> simp [Channel.outcome, Foreign.countOf, Reply.counts]
      · intro same
        rw [outcome, whole.mpr same]
        rfl
      · intro different
        cases fault with
        | none => exact absurd (whole.mp rfl) different
        | some cause =>
            rw [outcome]
            rfl
      · have failing : result.isOk = decide (chunk = bytes (incoming message)) := by
          rw [outcome, Bool.eq_iff_iff, decide_eq_true_iff, ← whole]
          cases fault <;> simp [Channel.outcome, Except.isOk, Except.toBool]
        simp only [Trace.records_upTo, Trace.records_reading,
          Trace.records_formatted, Trace.records_append, Trace.records_holding,
          Foreign.records_noteOf, silent, failing, List.cons_append,
          List.nil_append, admitted_printRecord]
      · exact next_of_reply native (ofCount_ne_aborted _)
      · rw [answer, native, answerOf_of_goesOn (ofCount_ne_aborted _)]
        simp only [Answer.unrecorded, Trace.unrecorded_upTo,
          Trace.unrecorded_reading, Trace.shown_reading, Trace.shown_append,
          List.filter_append, Foreign.unrecorded_noteOf, Foreign.shown_noteOf,
          List.append_nil]
      · exact ⟨still.sound, still.finite⟩

end Print

/-- A foreign print is the native print of the same text: it reports how much that
was if the target took all of it, and otherwise leaves what was taken and one record.
The calls to a file of the host come to an end; each offers exactly what is left, and
only one that gets nothing accepted without being interrupted is a failure. -/
theorem foreign_prints_agree :
    (∀ (session : Session) (message : Option Bytes),
      session.host.shared.channel.Orderly session.host.ports →
        ∃ after chunk,
          session.next (.foreign (.print message)) = some after ∧
            PrintsForeign session after (incoming message)
              (session.answer (.foreign (.print message))) chunk) ∧
      ∀ (file : HostFile) (data : Bytes),
        file.device.refusal.kind ≠ .interrupted →
          ∃ calls,
            HostFile.Writing file data calls (file.print data).1
                (file.print data).2 ∧
              (∀ others last result,
                HostFile.Writing file data others last result →
                  others = calls ∧ last = (file.print data).1 ∧
                    result = (file.print data).2) ∧
              HostFile.Written data calls (file.print data).2 := by
  constructor
  · intro session message orderly
    exact print_foreign orderly message
  · intro file data finite
    obtain ⟨calls, writing⟩ := HostFile.print_writing finite data
    refine ⟨calls, writing, ?_, writing.written⟩
    intro others last result too
    exact writing.unique too

/-- A file that takes two bytes, is interrupted and then has no space. -/
def crampedFile : HostFile :=
  HostFile.onto
    { Device.boundless with
        script :=
          [.accept 2, .accept 0, .interrupt, .refuse (.system Fault.noSpace)] }
    none true

theorem print_crampedFile :
    (crampedFile.print (bytes "abc")).2 = some (.system Fault.noSpace) := by
  have text : bytes "abc" = [97, 98, 99] := rfl
  let left (script : List Verdict) : HostFile :=
    { crampedFile with
        device := { crampedFile.device with script, content := [97, 98] }
        started := true }
  have first :
      crampedFile.put [97, 98, 99] =
        (left [.interrupt, .refuse (.system Fault.noSpace)], 2, none) := by
    apply HostFile.put_of_unbuffered rfl rfl rfl _ (by decide)
    rw [Device.drain]
    simp [crampedFile, HostFile.onto, Device.drain, Device.attempt,
      Device.take, atMost, Device.boundless]
  have second :
      (left [.interrupt, .refuse (.system Fault.noSpace)]).put [99] =
        (left [.refuse (.system Fault.noSpace)], 0,
          some (.system Fault.interruptedCall)) := by
    apply HostFile.put_of_unbuffered rfl rfl rfl _ (by decide)
    rw [Device.drain]
    rfl
  have third :
      (left [.refuse (.system Fault.noSpace)]).put [99] =
        (left [], 0, some (.system Fault.noSpace)) := by
    apply HostFile.put_of_unbuffered rfl rfl rfl _ (by decide)
    rw [Device.drain]
    rfl
  rw [text, HostFile.print, first]
  simp only [List.isEmpty_cons, Bool.false_eq_true, if_false,
    List.drop_succ_cons, List.drop_zero]
  rw [HostFile.print, second]
  simp only [List.isEmpty_cons, Bool.false_eq_true, if_false]
  rw [if_pos (by decide), HostFile.print, third]
  rfl

/-- A session whose shared hub prints to that file. -/
def crampedSession : Session :=
  { fresh .own false "" (Build.current "" "") with
      host :=
        { Host.fresh false "" with
            shared := { Hub.fresh with channel := ⟨some (.file "log")⟩ }
            ports := Ports.fresh.setFile "log" crampedFile }
      maximum := .upTo .debug }

/-- The text is cut after two bytes, the interruption is passed over, and the call is
reported as failed. -/
theorem foreign_prints_agree_cramped :
    ∃ after chunk,
      crampedSession.next (.foreign (.print (some [97, 98, 99, 0]))) =
          some after ∧
        chunk <+: bytes "abc" ∧ chunk ≠ bytes "abc" ∧
        (crampedSession.answer
            (.foreign (.print (some [97, 98, 99, 0])))).trace.records =
          [Foreign.printRecord] ∧
        ∃ calls,
          HostFile.Writing crampedFile (bytes "abc") calls
            (crampedFile.print (bytes "abc")).1
            (some (.system Fault.noSpace)) ∧
            taken calls ≠ bytes "abc" := by
  obtain ⟨prints, writes⟩ := foreign_prints_agree
  have orderly :
      crampedSession.host.shared.channel.Orderly
        crampedSession.host.ports := by
    constructor <;> rintro _ ⟨⟩
    decide
  have text : incoming (some [97, 98, 99, 0]) = "abc" := rfl
  obtain ⟨after, chunk, continues, printed⟩ :=
    prints crampedSession (some [97, 98, 99, 0]) orderly
  rw [text] at printed
  obtain ⟨calls, writing, unique, written⟩ :=
    writes crampedFile (bytes "abc") (by decide)
  rw [print_crampedFile] at writing written
  have short : chunk ≠ bytes "abc" := by
    cases printed.took with
    | screen here => cases here
    | stream here => cases here
    | file here _ too =>
        cases here
        obtain ⟨same, _, _⟩ := unique _ _ _ too
        intro whole
        rw [same] at whole
        cases written.whole.mpr whole
  refine
    ⟨after, chunk, continues, printed.beginning, short, ?_, calls, writing, ?_⟩
  · rw [printed.records, decide_eq_false short]
    rfl
  · intro whole
    cases written.whole.mpr whole

end Session

end SignalHub
