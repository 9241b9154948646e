import SignalHub.Foreign
import SignalHub.Proofs.Emission
import SignalHub.Proofs.Text.Terminated

/-!
# Through the foreign boundary and back

A message that comes from the foreign side, passes a foreign filter and goes to
a foreign sink crosses the boundary twice.  It arrives decoded and cut, and
nothing else has happened to it.  Signals from this side lose their zero bytes
on the way out, and nothing else.
-/

namespace SignalHub

open Text

/-- What the foreign sink is handed for a signal. -/
structure HandedOver (signal handed : Signal) : Prop where
  category :
    bytes handed.category = (bytes signal.category).filter (· != 0)
  file :
    bytes handed.origin.file = (bytes signal.origin.file).filter (· != 0)
  function :
    bytes handed.origin.function =
      (bytes signal.origin.function).filter (· != 0)
  line : handed.origin.line = min signal.origin.line 2147483647
  message :
    bytes handed.message = (bytes signal.message).filter (· != 0)

/-- The texts of a signal. -/
def Signal.texts (signal : Signal) : List String :=
  [signal.category, signal.origin.file, signal.origin.function,
    signal.message]

theorem crosses_of_mem_texts
    {signal : Signal} {text : String}
    (member : text ∈ signal.outgoing.texts) : Crosses text := by
  simp only [Signal.texts, Signal.outgoing, List.mem_cons, List.not_mem_nil,
    or_false] at member
  rcases member with rfl | rfl | rfl | rfl <;> exact crosses_outgoing _

theorem handedOver_outgoing (signal : Signal) :
    HandedOver signal signal.outgoing := by
  constructor
  · exact bytes_outgoing signal.category
  · exact bytes_outgoing signal.origin.file
  · exact bytes_outgoing signal.origin.function
  · rfl
  · exact bytes_outgoing signal.message

/-- What the foreign sink is handed for a message of the foreign side. -/
structure HandedBack
    (category file function : Foreign.ForeignString) (line : Int32)
    (message : Foreign.ForeignString) (handed : Signal) : Prop where
  category : handed.category = incoming category
  file : handed.origin.file = incoming file
  function : handed.origin.function = incoming function
  line : (handed.origin.line : Int) = max line.toInt 0
  message : LongestFitting 249 (incoming message) handed.message
  fits : (bytes handed.message).length + 1 ≤ 250

/-- A beginning of a text without a terminator has none either. -/
theorem outgoing_of_beginning
    {limit : Nat} {input : Option Bytes} {cut : String}
    (longest : LongestFitting limit (incoming input) cut) :
    outgoing cut = cut := by
  apply outgoing_of_clean
  intro member
  exact terminator_not_mem_incoming input (longest.beginning.subset member)

/-- Lines of the foreign side are small enough to go back. -/
theorem lineOut_lineIn (line : Int32) :
    (lineOut (lineIn line.toInt) : Int) = max line.toInt 0 := by
  have small := line.toInt_lt
  simp only [lineOut, lineIn, lineMaximum]
  omega

theorem handedBack_outgoing
    (category file function : Foreign.ForeignString) (line : Int32)
    (message : Foreign.ForeignString) :
    HandedBack category file function line message
      (Signal.outgoing
        ((Message.text (incoming message)).signal (incoming category)
          (Foreign.originOf file function line.toInt))) := by
  have longest :=
    (Message.text (incoming message)).longestFitting_signal
      (incoming category) (Foreign.originOf file function line.toInt)
  have offered :
      (Message.text (incoming message)).program.offeredBounded messageSize =
        incoming message :=
    Formatter.offeredBounded_text (incoming message) messageSize
  rw [offered] at longest
  have unchanged := outgoing_of_beginning longest
  constructor
  · exact outgoing_incoming category
  · exact outgoing_incoming file
  · exact outgoing_incoming function
  · exact lineOut_lineIn line
  · rw [Signal.outgoing, unchanged]
    exact longest
  · rw [Signal.outgoing, unchanged]
    exact Nat.succ_le_succ longest.fits

/-- Through an open gate the foreign sink is called with the signal's outgoing
form; what follows is what its function does from inside. -/
theorem emit_to_foreign
    {host : Host} {scope : Scope} {filter : Filter} {category : String}
    (sinkHere : (host.hub scope).sink = some .foreign)
    (filterHere : (host.hub scope).filter = some filter)
    (accepted : filter.accepts host.acceptance category = true)
    (origin : Origin) (message : Message) :
    ∃ more,
      (host.emit scope category origin message).2 =
          Trace.reading scope
            (.question filter category :: filter.passedOn category ++
              [.formatted (message.program.runBounded messageSize).taken
                  message.announced,
                .delivery .foreign (message.signal category origin),
                .received .foreign
                  (message.signal category origin).outgoing] ++
              more) ∧
        (host.script = [] → more = []) := by
  have opened := Host.gate_of_registered sinkHere filterHere category
  rw [if_pos accepted] at opened
  obtain ⟨more, traced, alone⟩ :=
    Host.emitReading_of_open opened origin message
  refine ⟨more, ?_, fun idle => (alone idle).1⟩
  rw [Host.emit_eq, traced]
  simp [Host.receive]

/-- A message of the foreign side that its own filter accepts reaches its own
sink in one call: decoded, cut between characters to 249 bytes, and otherwise
as it was sent.  The filter was asked about the very text that the sink gets
as category.  And whatever else is emitted to the foreign sink loses its zero
bytes, and nothing more. -/
theorem foreign_sink_is_handed_the_message :
    (∀ (host : Host) (category file function message : Foreign.ForeignString)
        (line : Int32),
      host.shared.sink = some .foreign →
        host.shared.filter = some .foreign →
        host.acceptance.accepts (bytes (incoming category)) = true →
        ∃ handed taken more,
          (Foreign.emit host category file function line.toInt message).2 =
              [.lock .share, .question .foreign (incoming category),
                .asked .foreign handed.category, .formatted taken false,
                .delivery .foreign
                  ((Message.text (incoming message)).signal
                    (incoming category)
                    (Foreign.originOf file function line.toInt)),
                .received .foreign handed] ++
                more ++ [.lock .unshare] ∧
            (host.script = [] → more = []) ∧
            HandedBack category file function line message handed ∧
            ∀ text ∈ handed.texts, Crosses text) ∧
      (∀ (host : Host) (scope : Scope) (filter : Filter) (category : String)
        (origin : Origin) (message : Message),
        (host.hub scope).sink = some .foreign →
          (host.hub scope).filter = some filter →
          filter.accepts host.acceptance category = true →
          ∃ handed more,
            (host.emit scope category origin message).2 =
                Trace.reading scope
                  (.question filter category :: filter.passedOn category ++
                    [.formatted
                        (message.program.runBounded messageSize).taken
                        message.announced,
                      .delivery .foreign (message.signal category origin),
                      .received .foreign handed] ++
                    more) ∧
              (host.script = [] → more = []) ∧
              HandedOver (message.signal category origin) handed ∧
              ∀ text ∈ handed.texts, Crosses text) ∧
      incoming none = "" ∧
      ∀ text rest, (0 : UInt8) ∉ bytes text →
        incoming (some (bytes text ++ 0 :: rest)) = text := by
  refine ⟨?_, ?_, rfl, fun text rest clean => incoming_bytes clean rest⟩
  · intro host category file function message line sinkHere filterHere accepted
    have willing :
        Filter.foreign.accepts host.acceptance (incoming category) = true := by
      rw [Filter.accepts, outgoing_incoming]
      exact accepted
    have shared : host.hub .shared = host.shared := rfl
    rw [← shared] at sinkHere filterHere
    obtain ⟨more, traced, alone⟩ :=
      emit_to_foreign sinkHere filterHere willing
        (Foreign.originOf file function line.toInt)
        (Message.text (incoming message))
    refine ⟨_,
      ((Formatter.text (incoming message)).runBounded messageSize).taken,
      more, ?_, alone,
      handedBack_outgoing category file function line message,
      fun text member => crosses_of_mem_texts member⟩
    rw [Foreign.emit, traced]
    simp [Trace.reading, Filter.passedOn, Signal.outgoing, Message.signal,
      Message.text]
  · intro host scope filter category origin message sinkHere filterHere accepted
    obtain ⟨more, traced, alone⟩ :=
      emit_to_foreign sinkHere filterHere accepted origin message
    exact
      ⟨_, more, traced, alone, handedOver_outgoing _,
        fun text member => crosses_of_mem_texts member⟩

/-- Bytes that are no text come back replaced and a negative line as zero; a
zero byte is left out and the greatest line is lowered. -/
theorem foreign_sink_is_handed_the_message_odd :
    (∃ handed,
      Event.received .foreign handed ∈
          (Foreign.emit
            (((Host.fresh false "").setSink .shared (some .foreign)).setFilter
              .shared (some .foreign))
            (some [0x47, 0xFF]) none none (-5) (some [0x68, 0x69])).2 ∧
        handed = ⟨"G\uFFFD", ⟨"", "", 0⟩, "hi"⟩) ∧
      ∃ handed,
        Event.received .foreign handed ∈
            (Host.emit
              (((Host.fresh false "").setSink .own (some .foreign)).setFilter
                .own (some .all))
              .own "a\x00b" ⟨"", "", 4294967295⟩ (Message.text "")).2 ∧
          bytes handed.category = [97, 98] ∧
          handed.origin.line = 2147483647 := by
  obtain ⟨returned, handedOut, _, _⟩ := foreign_sink_is_handed_the_message
  constructor
  · obtain ⟨handed, taken, more, traced, _, back, _⟩ :=
      returned
        (((Host.fresh false "").setSink .shared (some .foreign)).setFilter
          .shared (some .foreign))
        (some [0x47, 0xFF]) none none (some [0x68, 0x69]) (-5) rfl rfl rfl
    obtain ⟨category, ⟨file, function, line⟩, message⟩ := handed
    have categoryBack : category = "G\uFFFD" := back.category
    have fileBack : file = "" := back.file
    have functionBack : function = "" := back.function
    have lineBack : (line : Int) = 0 := back.line
    have messageBack : message = "hi" := back.message.eq_of_fits (by decide)
    refine ⟨⟨category, ⟨file, function, line⟩, message⟩, ?_, ?_⟩
    · rw [show (-5 : Int) = Int32.toInt (-5) from rfl, traced]
      simp
    · rw [categoryBack, fileBack, functionBack, Int.natCast_eq_zero.mp lineBack,
        messageBack]
  · obtain ⟨handed, more, traced, _, lowered, _⟩ :=
      handedOut
        (((Host.fresh false "").setSink .own (some .foreign)).setFilter
          .own (some .all))
        .own .all "a\x00b" ⟨"", "", 4294967295⟩ (Message.text "") rfl rfl rfl
    refine ⟨handed, ?_, lowered.category, lowered.line⟩
    rw [traced]
    simp [Trace.reading]

end SignalHub
