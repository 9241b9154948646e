import SignalHub.Proofs.Fatal
import SignalHub.Proofs.Separation

/-!
# Records of emissions

Whatever functions of the host do on the way of a signal, the only records are
those of signals that reach a journal sink: one for each, in the order in which
they are delivered.
-/

namespace SignalHub

open Output Text

namespace Record

theorem levelOf_name
    {severity : Severity} {level : Level}
    (forwarded : severity.level? = some level) :
    levelOf severity.name = level := by
  cases severity <;> cases forwarded <;> decide

/-- A category without a severity of its own is forwarded as information. -/
theorem levelOf_of_unnamed
    {category : String}
    (unnamed : ∀ severity : Severity, severity.level?.isSome →
      severity.name ≠ category) :
    levelOf category = .info := by
  rw [levelOf, Severity.ofName?]
  cases found : Severity.all.find? fun severity =>
      severity.name == category with
  | none => rfl
  | some severity =>
      have named : severity.name = category := by
        simpa using List.find?_some found
      rw [Option.bind_some]
      cases forwarded : severity.level? with
      | none => rfl
      | some level =>
          have isSome : severity.level?.isSome = true := by
            rw [forwarded]
            rfl
          exact absurd named (unnamed severity isSome)

end Record

namespace Trace

/-- The records of the signals that a trace delivers to a journal sink. -/
def journaled (trace : Trace) : List Record :=
  trace.filterMap fun
    | .delivery .journal signal =>
        some
          ⟨Record.levelOf signal.category, "vm",
            "[" ++ signal.category ++ "] " ++ signal.message,
            some signal.origin⟩
    | _ => none

@[simp]
theorem journaled_append (left right : Trace) :
    journaled (left ++ right) = journaled left ++ journaled right :=
  List.filterMap_append

@[simp]
theorem journaled_reading (scope : Scope) (trace : Trace) :
    journaled (reading scope trace) = journaled trace :=
  filterMap_reading (fun _ => rfl) scope trace

@[simp]
theorem journaled_upTo (maximum : Verbosity) (trace : Trace) :
    journaled (upTo maximum trace) = journaled trace :=
  filterMap_upTo (fun _ => rfl) maximum trace

@[simp]
theorem records_reading (scope : Scope) (trace : Trace) :
    records (reading scope trace) = records trace :=
  filterMap_reading (fun _ => rfl) scope trace

theorem journaled_of_undelivered
    {trace : Trace} (undelivered : trace.deliveries = []) :
    trace.journaled = [] := by
  rw [deliveries, List.filterMap_eq_nil_iff] at undelivered
  rw [journaled, List.filterMap_eq_nil_iff]
  intro event member
  have unseen := undelivered event member
  cases event with
  | delivery sink signal => cases unseen
  | _ => rfl

/-- The only records of a trace are those of forwarded signals. -/
def OnlyForwards (trace : Trace) : Prop :=
  trace.records = trace.journaled

/-- A trace that forwards signals and ends with records of its own. -/
def Notes (trace : Trace) (notes : List Record) : Prop :=
  trace.records = trace.journaled ++ notes

theorem OnlyForwards.notes
    {trace : Trace} (forwards : trace.OnlyForwards) : trace.Notes [] := by
  rw [Notes, List.append_nil]
  exact forwards

theorem notes_of_printing
    {trace : Trace} (prints : trace.all isPrinting) :
    trace.Notes trace.records := by
  have undelivered := deliveries_of_printing prints
  rw [Notes, journaled_of_undelivered undelivered, List.nil_append]

theorem onlyForwards_of_printing
    {trace : Trace} (prints : trace.all isPrinting)
    (silent : trace.records = []) : trace.OnlyForwards := by
  have undelivered := deliveries_of_printing prints
  rw [OnlyForwards, silent, journaled_of_undelivered undelivered]

theorem OnlyForwards.append
    {left right : Trace} (first : left.OnlyForwards)
    (second : right.OnlyForwards) : OnlyForwards (left ++ right) := by
  rw [OnlyForwards, records_append, journaled_append, first, second]

theorem OnlyForwards.reading
    {trace : Trace} (inside : trace.OnlyForwards) (scope : Scope) :
    OnlyForwards (Trace.reading scope trace) := by
  rw [OnlyForwards, records_reading, journaled_reading, inside]

end Trace

namespace Host

section Records

variable (host : Host)

theorem records_receive
    (scope : Scope) (sink : Sink) (signal : Signal) :
    Trace.records (host.receive scope sink signal).2 =
      Trace.journaled [.delivery sink signal] := by
  cases sink with
  | buffering waker waiting =>
      cases waker with
      | none => rfl
      | some waker =>
          simp only [receive, buffer, wake]
          split <;> rfl
  | _ => rfl

theorem records_printBytes (scope : Scope) (data : Bytes) :
    Trace.records (host.printBytes scope data).2.1 = [] := by
  rw [printBytes, Trace.records_holding]
  apply Trace.filterMap_of_kind _ (Channel.output_print _ _ _)
  intro event output
  cases event <;> first | rfl | cases output

theorem records_printAction (text : String) :
    Trace.records (host.printAction text).2 = [] := by
  apply filterMap_printAction (fun _ => rfl) (fun _ _ => rfl)
  intro event output
  cases event <;> first | rfl | cases output

theorem onlyForwards_pollBuffer (scope : Scope) :
    Trace.OnlyForwards (host.pollBuffer scope).2.1 := by
  rw [pollBuffer]
  split <;> rfl

theorem respected_onlyForwards (scope : Scope) :
    Respected scope fun _ _ trace => trace.OnlyForwards := by
  constructor
  · intro host trace asks
    have undelivered := Trace.deliveries_of_asking asks
    rw [Trace.OnlyForwards, Trace.records_of_asking asks,
      Trace.journaled_of_undelivered undelivered]
  · intro first second third early late begins continues
    exact begins.append continues
  · intro host script
    rfl
  · intro within host after trace inside
    exact inside.reading within
  · intro host within sink _ _ signal
    have silent :
        Trace.journaled (host.receive within sink signal).2 = [] :=
      Trace.journaled_of_undelivered (host.deliveries_receive within sink signal)
    have whole :
        Trace.journaled
            (.delivery sink signal :: (host.receive within sink signal).2) =
          Trace.journaled [.delivery sink signal] := by
      rw [← List.singleton_append, Trace.journaled_append, silent,
        List.append_nil]
    exact (host.records_receive within sink signal).trans whole.symm
  · intro host text
    rw [Trace.OnlyForwards, records_printAction,
      Trace.journaled_of_undelivered (host.deliveries_printAction text)]
  · intro host
    exact ((host.onlyForwards_pollBuffer .shared).reading .shared).append rfl

theorem onlyForwards_emit
    (scope : Scope) (category : String) (origin : Origin) (message : Message) :
    Trace.OnlyForwards (host.emit scope category origin message).2 :=
  (respected_onlyForwards scope).emit (Or.inl rfl) host category origin message

theorem onlyForwards_printStatus (scope : Scope) :
    Trace.OnlyForwards (host.printStatus scope).2 := by
  cases registered : (host.hub scope).statusPrinter with
  | none =>
      rw [printStatus_of_none registered]
      rfl
  | some printer =>
      rw [printStatus_of_some registered]
      exact (respected_onlyForwards scope).performAll host printer.actions

theorem onlyForwards_flushOutput (scope : Scope) :
    Trace.OnlyForwards (host.flushOutput scope).2.1 := by
  apply Trace.onlyForwards_of_printing (host.isPrinting_flushOutput scope)
  rw [flushOutput, Trace.records_holding]
  exact Channel.records_flush _ _

theorem records_printReading (scope : Scope) (message : Message) :
    Trace.records (host.printReading scope message).2.1 = [] := by
  simp only [printReading]
  split
  · exact host.records_printBytes scope _
  · rfl

theorem onlyForwards_printReading (scope : Scope) (message : Message) :
    Trace.OnlyForwards (host.printReading scope message).2.1 :=
  Trace.onlyForwards_of_printing (host.isPrinting_printReading scope message)
    (host.records_printReading scope message)

end Records

/-- The record of a flush that fails, by the part of the program that
notices. -/
def flushNote (target : String) (fault : Option Fault) : List Record :=
  match fault with
  | some cause =>
      [⟨.debug, target,
        "Failed to flush the vm output stream: " ++ cause.text, none⟩]
  | none => []

theorem records_failing (fault : Option Fault) :
    (Trace.failing fault).records =
        flushNote "vm_diagnostics::diagnostics" fault ∧
      (Trace.failing fault).journaled = [] := by
  cases fault <;> exact ⟨rfl, rfl⟩

/-- On the path to an abort a failed flush leaves the last record. -/
theorem notes_fatal
    (host : Host) (scope : Scope) (origin : Origin) (text : String) :
    Trace.Notes (host.fatal scope origin text).2
      (flushNote "vm_diagnostics::diagnostics"
        (host.fatalPath scope origin text).fault) := by
  let path := host.fatalPath scope origin text
  have entered : Trace.OnlyForwards (Trace.entering scope) := by
    cases scope <;> rfl
  have emitted : Trace.OnlyForwards path.emission :=
    (respected_onlyForwards scope).emitReading (Or.inl rfl) host "ERROR" origin
      (Message.text text)
  have reported : Trace.OnlyForwards path.status :=
    path.emitted.onlyForwards_printStatus scope
  have flushed : Trace.OnlyForwards path.flushing :=
    path.reported.onlyForwards_flushOutput scope
  have before :
      Trace.OnlyForwards
        (Trace.entering scope ++ path.emission ++ path.status ++
          path.flushing) :=
    ((entered.append emitted).append reported).append flushed
  obtain ⟨records, journaled⟩ := records_failing path.fault
  rw [Trace.Notes, fatal_eq_fatalPath, Trace.records_append,
    Trace.journaled_append, before, records, journaled, List.append_nil]

end Host

end SignalHub
