import SignalHub.Proofs.Emission
import SignalHub.Proofs.Session.Reach
import SignalHub.Proofs.Severity
import SignalHub.Proofs.Text.Terminated

/-!
# Foreign calls by severity

The foreign side can emit by severity, as an assertion, and with the description
of a fault of the system.  Each of these calls does what the one general call
does when it is given the severity's name as category.  An index outside of the
severity table does nothing but leave a record.
-/

namespace SignalHub

open Text

/-! ## What is seen of a formatting -/

/-- An event as it can be noticed from outside: when nobody announces a
formatting, nobody learns how many pieces it took. -/
def Event.noticed : Event → Event
  | .formatted _ false => .formatted 0 false
  | event => event

/-- A trace as it can be noticed from outside. -/
def Trace.noticed (trace : Trace) : Trace :=
  trace.map Event.noticed

namespace Trace

@[simp]
theorem noticed_append (left right : Trace) :
    noticed (left ++ right) = noticed left ++ noticed right :=
  List.map_append

@[simp]
theorem noticed_reading (scope : Scope) (trace : Trace) :
    noticed (reading scope trace) = reading scope (noticed trace) := by
  cases scope with
  | own => rfl
  | shared => simp [reading, noticed, Event.noticed]

end Trace

/-! ## Messages with the same text -/

/-- The messages become the same signals, and nobody announces their
formatting. -/
structure Message.Alike (left right : Message) : Prop where
  bounded :
    left.program.bounded messageSize = right.program.bounded messageSize
  quiet : left.announced = false
  quietToo : right.announced = false

/-- Messages that are alike are emitted alike. -/
theorem Host.emit_of_alike
    {left right : Message} (alike : left.Alike right)
    (host : Host) (scope : Scope) (category : String) (origin : Origin) :
    (host.emit scope category origin left).1 =
        (host.emit scope category origin right).1 ∧
      Trace.noticed (host.emit scope category origin left).2 =
        Trace.noticed (host.emit scope category origin right).2 := by
  have signal :
      left.signal category origin = right.signal category origin :=
    congrArg (Signal.mk category origin) alike.bounded
  rw [emit_eq, emit_eq, Trace.noticed_reading, Trace.noticed_reading]
  cases opened : host.gate scope category with
  | mk through asked =>
      cases through with
      | none =>
          rw [emitReading_of_closed opened, emitReading_of_closed opened]
          exact ⟨rfl, rfl⟩
      | some sink =>
          rw [emitReading_eq_follow opened, emitReading_eq_follow opened,
            through, through, signal, alike.quiet, alike.quietToo]
          refine ⟨rfl, ?_⟩
          simp only [Trace.noticed_append]
          rfl

/-- A text with the description of a fault, offered in three pieces, is like
the whole text. -/
theorem Message.systemFault_alike (text : String) (code : Int) :
    (Message.systemFault text code).Alike
      (Message.text (text ++ ": " ++ systemFaultText code)) := by
  have program :
      (Message.systemFault text code).program =
        Formatter.ofPieces false false
          [text, ": ", systemFaultText code] := by
    rw [Message.systemFault, Formatter.followedBy_assoc,
      Formatter.ofPieces_cons, Formatter.ofPieces_cons,
      Formatter.ofPieces_cons, Formatter.ofPieces, Bool.not_false,
      Formatter.text_followedBy_finish]
  have joined :
      String.join [text, ": ", systemFaultText code] =
        text ++ ": " ++ systemFaultText code := by
    rw [← String.toList_inj]
    simp
  refine ⟨?_, rfl, rfl⟩
  rw [program, Formatter.bounded_ofPieces, joined]
  rfl

/-! ## Texts for the foreign side -/

/-- The terminated form of a text. -/
def Foreign.terminated (text : String) : Foreign.ForeignString :=
  some (bytes text ++ [0])

theorem incoming_terminated
    {text : String} (clean : '\x00' ∉ text.toList) :
    incoming (Foreign.terminated text) = text := by
  have crosses := crosses_outgoing text
  rw [outgoing_of_clean clean] at crosses
  exact crosses.whole []

theorem clean_ofList
    {characters : List Char} (clean : '\x00' ∉ characters) :
    '\x00' ∉ (String.ofList characters).toList := by
  rwa [String.toList_ofList]

theorem clean_append
    {left right : String} (clean : '\x00' ∉ left.toList)
    (cleanToo : '\x00' ∉ right.toList) :
    '\x00' ∉ (left ++ right).toList := by
  rw [String.toList_append, List.mem_append, not_or]
  exact ⟨clean, cleanToo⟩

theorem Severity.name_clean (severity : Severity) :
    '\x00' ∉ severity.name.toList := by
  cases severity <;> exact clean_ofList (by decide)

theorem toString_clean (number : Int) :
    '\x00' ∉ (toString number).toList := by
  have digits : ∀ magnitude : Nat, '\x00' ∉ magnitude.repr.toList := by
    intro magnitude member
    rw [Nat.repr_eq_ofList_toDigits, String.toList_ofList] at member
    have digit :=
      Nat.isDigit_of_mem_toDigits (by decide) (by decide) member
    exact absurd digit (by decide)
  change '\x00' ∉ number.repr.toList
  cases number with
  | ofNat magnitude => exact digits magnitude
  | negSucc magnitude =>
      exact clean_append (clean_ofList (by decide)) (digits (magnitude + 1))

/-- No description of a fault has a terminator in it. -/
theorem systemFaultText_clean (code : Int) :
    '\x00' ∉ (systemFaultText code).toList := by
  have listed : ∀ entry ∈ systemTexts, '\x00' ∉ entry.2.toList := by
    unfold systemTexts
    -- Deciding the whole table at once is slow, so each text is decided alone.
    repeat'
      refine List.forall_mem_cons.mpr ⟨clean_ofList (by decide), ?_⟩
    exact List.forall_mem_nil _
  have described : '\x00' ∉ (systemText code).toList := by
    rw [systemText]
    split
    · rename_i entry found
      exact listed entry (List.mem_of_find?_eq_some found)
    · exact
        clean_append (clean_ofList (by decide)) (toString_clean code)
  rw [systemFaultText]
  exact
    clean_append
      (clean_append
        (clean_append described (clean_ofList (by decide)))
        (toString_clean code))
      (clean_ofList (by decide))

/-! ## The calls -/

namespace Session

/-- Two calls leave the same behind, answer the same, and nobody notices a
difference between what they did. -/
structure SameEffects (session : Session) (left right : Step) : Prop where
  state : (session.perform left).1 = (session.perform right).1
  reply : (session.perform left).2.2 = (session.perform right).2.2
  trace :
    Trace.noticed (session.perform left).2.1 =
      Trace.noticed (session.perform right).2.1

/-- A call that leaves everything as it was, and a record at most. -/
structure LeavesRecord (session : Session) (step : Step) (record : Record) :
    Prop where
  state : (session.perform step).1 = session
  reply : (session.answer step).reply = .nothing
  trace :
    (session.answer step).trace =
      if session.maximum.admits record.level then [.record record] else []

theorem leavesRecord_of_perform
    {session : Session} {step : Step} {record : Record}
    (performed : session.perform step = (session, [.record record], .nothing)) :
    session.LeavesRecord step record := by
  constructor
  · rw [performed]
  · rw [reply_answer, performed]
  · rw [trace_answer, performed, Trace.upTo, List.filter_cons]
    rfl

end Session

section Calls

variable (session : Session) (file function message : Foreign.ForeignString)
  (line : Int)

theorem perform_emit (category : Foreign.ForeignString) :
    session.perform (.foreign (.emit category file function line message)) =
      ({ session with
          host :=
            (session.host.emit .shared (incoming category)
              (Foreign.originOf file function line)
              (Message.text (incoming message))).1 },
        (session.host.emit .shared (incoming category)
          (Foreign.originOf file function line)
          (Message.text (incoming message))).2,
        .nothing) := rfl

/-- By severity is by the severity's name. -/
theorem perform_emitBySeverity (severity : Severity) :
    session.perform
        (.foreign
          (.emitBySeverity severity.index file function line message)) =
      session.perform
        (.foreign
          (.emit (Foreign.terminated severity.name) file function line
            message)) := by
  rw [perform_emit, incoming_terminated severity.name_clean, Session.perform,
    Host.answer, Foreign.emitBySeverity, severity.ofIndex_index]
  rfl

theorem perform_emitAssertion :
    session.perform
        (.foreign (.emitAssertion file function line message)) =
      session.perform
        (.foreign
          (.emit (Foreign.terminated "WARNING") file function line
            message)) := by
  have named : incoming (Foreign.terminated "WARNING") = "WARNING" :=
    incoming_terminated (clean_ofList (by decide))
  rw [perform_emit, named]
  rfl

/-- With the description of a fault is with the joined text. -/
theorem sameEffects_emitSystemFault (severity : Severity) (code : Int) :
    session.SameEffects
      (.foreign
        (.emitSystemFault severity.index message file function line code))
      (.foreign
        (.emit (Foreign.terminated severity.name) file function line
          (Foreign.terminated
            (incoming message ++ ": " ++ systemFaultText code)))) := by
  have joined :
      '\x00' ∉
        (incoming message ++ ": " ++ systemFaultText code).toList :=
    clean_append
      (clean_append (terminator_not_mem_incoming message)
        (clean_ofList (by decide)))
      (systemFaultText_clean code)
  have performed :
      session.perform
          (.foreign
            (.emitSystemFault severity.index message file function line
              code)) =
        ({ session with
            host :=
              (session.host.emit .shared severity.name
                (Foreign.originOf file function line)
                (Message.systemFault (incoming message) code)).1 },
          (session.host.emit .shared severity.name
            (Foreign.originOf file function line)
            (Message.systemFault (incoming message) code)).2,
          .nothing) := by
    rw [Session.perform, Host.answer, Foreign.emitSystemFault,
      severity.ofIndex_index]
    rfl
  have alike :=
    Host.emit_of_alike (Message.systemFault_alike (incoming message) code)
      session.host .shared severity.name
      (Foreign.originOf file function line)
  constructor
  · rw [performed, perform_emit, incoming_terminated severity.name_clean,
      incoming_terminated joined, alike.1]
  · rw [performed, perform_emit]
  · rw [performed, perform_emit, incoming_terminated severity.name_clean,
      incoming_terminated joined]
    exact alike.2

/-- It is the joined text that is cut to fit. -/
theorem longestFitting_systemFault (text : String) (code : Int) :
    LongestFitting 249 (text ++ ": " ++ systemFaultText code)
      ((Message.systemFault text code).program.bounded messageSize) := by
  have longest :=
    (Formatter.text (text ++ ": " ++ systemFaultText code)).longestFitting_bounded
      messageSize
  rw [Formatter.offeredBounded_text] at longest
  rw [(Message.systemFault_alike text code).bounded]
  exact longest

/-- The record that names an index outside of the severity table. -/
def outsideRecord (level : Int) : Record :=
  ⟨.warn, "vm_diagnostics::ffi",
    "Log level " ++ toString level ++
      " is outside of the severity table (0..=5)", none⟩

theorem leavesRecord_of_outside
    {level : Int} (outside : ¬ (0 ≤ level ∧ level ≤ 5)) (code : Int) :
    session.LeavesRecord
        (.foreign (.emitBySeverity level file function line message))
        (outsideRecord level) ∧
      session.LeavesRecord
        (.foreign (.emitSystemFault level message file function line code))
        (outsideRecord level) := by
  have refused := Severity.ofIndex_of_outside outside
  constructor
  · apply Session.leavesRecord_of_perform
    rw [Session.perform, Host.answer, Foreign.emitBySeverity, refused]
    rfl
  · apply Session.leavesRecord_of_perform
    rw [Session.perform, Host.answer, Foreign.emitSystemFault, refused]
    rfl

end Calls

/-- Whatever the state and whatever bytes the strings are: a call by severity
does exactly what the general call does with the severity's name, an assertion
what it does with `WARNING`, and a call with a fault of the system what it does
with the joined text, which is cut as a whole.  An index outside of the table
leaves everything as it was; its only trace is a record that names it, if the
journal admits warnings. -/
theorem foreign_calls_refine_emission
    (session : Session) (file function message : Foreign.ForeignString)
    (line : Int32) :
    (∀ level : Int32, 0 ≤ level.toInt → level.toInt ≤ 5 →
        ∃ severity : Severity,
          (severity.index : Int) = level.toInt ∧
            Severity.names[severity.index]? = some severity.name ∧
            session.perform
                (.foreign
                  (.emitBySeverity level.toInt file function line.toInt
                    message)) =
              session.perform
                (.foreign
                  (.emit (Foreign.terminated severity.name) file function
                    line.toInt message)) ∧
            ∀ code : Int32,
              session.SameEffects
                (.foreign
                  (.emitSystemFault level.toInt message file function
                    line.toInt code.toInt))
                (.foreign
                  (.emit (Foreign.terminated severity.name) file function
                    line.toInt
                    (Foreign.terminated
                      (incoming message ++ ": " ++
                        systemFaultText code.toInt)))) ∧
                LongestFitting 249
                  (incoming message ++ ": " ++ systemFaultText code.toInt)
                  ((Message.systemFault (incoming message)
                    code.toInt).signal severity.name
                      (Foreign.originOf file function line.toInt)).message) ∧
      session.perform
          (.foreign (.emitAssertion file function line.toInt message)) =
        session.perform
          (.foreign
            (.emit (Foreign.terminated "WARNING") file function line.toInt
              message)) ∧
      ∀ level : Int32, ¬ (0 ≤ level.toInt ∧ level.toInt ≤ 5) →
        ∀ code : Int32,
          session.LeavesRecord
              (.foreign
                (.emitBySeverity level.toInt file function line.toInt
                  message))
              (outsideRecord level.toInt) ∧
            session.LeavesRecord
              (.foreign
                (.emitSystemFault level.toInt message file function
                  line.toInt code.toInt))
              (outsideRecord level.toInt) := by
  refine ⟨?_, perform_emitAssertion session file function message line.toInt,
    ?_⟩
  · intro level lower upper
    obtain ⟨severity, same⟩ := Severity.exists_of_index lower upper
    rw [← same]
    exact
      ⟨severity, rfl, severity.getElem?_names,
        perform_emitBySeverity session file function message line.toInt
          severity,
        fun code =>
          ⟨sameEffects_emitSystemFault session file function message
              line.toInt severity code.toInt,
            longestFitting_systemFault (incoming message) code.toInt⟩⟩
  · intro level outside code
    exact
      leavesRecord_of_outside session file function message line.toInt
        outside code.toInt

/-- A message that is no text, as information, and an index far outside. -/
theorem foreign_calls_refine_emission_mixed :
    (Session.fresh .shared false "" (Build.current "" "")).perform
          (.foreign
            (.emitBySeverity 3 none none (-7) (some [0x68, 0xFF, 0]))) =
        (Session.fresh .shared false "" (Build.current "" "")).perform
          (.foreign
            (.emit (Foreign.terminated "INFO") none none (-7)
              (some [0x68, 0xFF, 0]))) ∧
      ({ Session.fresh .shared false "" (Build.current "" "") with
          maximum := .upTo .warn }.answer
        (.foreign
          (.emitBySeverity 42 none none (-7) (some [0x68, 0xFF, 0])))).trace =
        [.record
          ⟨.warn, "vm_diagnostics::ffi",
            "Log level 42 is outside of the severity table (0..=5)",
            none⟩] := by
  constructor
  · obtain ⟨inside, _, _⟩ :=
      foreign_calls_refine_emission
        (Session.fresh .shared false "" (Build.current "" ""))
        none none (some [0x68, 0xFF, 0]) (-7)
    obtain ⟨severity, index, _, same, _⟩ :=
      inside 3 (by decide) (by decide)
    cases severity with
    | info => exact same
    | _ => exact absurd index (by decide)
  · obtain ⟨_, _, outside⟩ :=
      foreign_calls_refine_emission
        { Session.fresh .shared false "" (Build.current "" "") with
            maximum := .upTo .warn }
        none none (some [0x68, 0xFF, 0]) (-7)
    obtain ⟨leaves, _⟩ := outside 42 (by decide) 0
    exact leaves.trace

end SignalHub
