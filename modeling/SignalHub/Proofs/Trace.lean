import SignalHub.Host.Hub

/-!
# Views of a trace

What is read off a trace does not depend on the locks around it.  The journal's
maximum keeps back nothing but records.
-/

namespace SignalHub.Trace

open Output

/-! ## Any view -/

section Views

variable {Item : Type} {view : Event → Option Item}

theorem filterMap_reading
    (unlocked : ∀ step, view (.lock step) = none)
    (scope : Scope) (trace : Trace) :
    (reading scope trace).filterMap view = trace.filterMap view := by
  cases scope with
  | own => rfl
  | shared => simp [reading, unlocked]

theorem filterMap_writing
    (unlocked : ∀ step, view (.lock step) = none)
    (scope : Scope) (trace : Trace) :
    (writing scope trace).filterMap view = trace.filterMap view := by
  cases scope with
  | own => rfl
  | shared => simp [writing, unlocked]

theorem filterMap_holding
    (unlocked : ∀ step, view (.lock step) = none)
    (mutex : Mutex) (trace : Trace) :
    (holding mutex trace).filterMap view = trace.filterMap view := by
  simp [holding, unlocked]

theorem filterMap_upTo
    (unrecorded : ∀ record, view (.record record) = none)
    (maximum : Verbosity) (trace : Trace) :
    (upTo maximum trace).filterMap view = trace.filterMap view := by
  have same :
      (fun event => if sees maximum event then view event else none) =
        view := by
    funext event
    cases event with
    | record record => rw [unrecorded, ite_self]
    | _ => rfl
  rw [upTo, List.filterMap_filter, same]

/-- A view of nothing that the trace is made of. -/
theorem filterMap_of_kind
    {kind : Event → Bool} (blind : ∀ event, kind event → view event = none)
    {trace : Trace} (made : trace.all kind) : trace.filterMap view = [] := by
  rw [List.filterMap_eq_nil_iff]
  intro event member
  exact blind event (List.all_eq_true.mp made event member)

end Views

/-! ## Kinds of events -/

section Locked

variable {kind : Event → Bool} {trace : Trace}

theorem all_reading
    (locks : ∀ step, kind (.lock step) = true) (scope : Scope)
    (inside : trace.all kind) : (reading scope trace).all kind := by
  cases scope with
  | own => exact inside
  | shared =>
      rw [reading, List.all_append, List.all_cons, inside, locks]
      simp [locks]

theorem all_writing
    (locks : ∀ step, kind (.lock step) = true) (scope : Scope)
    (inside : trace.all kind) : (writing scope trace).all kind := by
  cases scope with
  | own => exact inside
  | shared =>
      rw [writing, List.all_append, List.all_cons, inside, locks]
      simp [locks]

theorem all_holding
    (locks : ∀ step, kind (.lock step) = true) (mutex : Mutex)
    (inside : trace.all kind) : (holding mutex trace).all kind := by
  rw [holding, List.all_append, List.all_cons, inside, locks]
  simp [locks]

end Locked

/-- What a target does. -/
def isOutput : Event → Bool
  | .transfer _ | .shown _ => true
  | _ => false

/-- What happens on a message's way to the gate: questions, and its own
formatting. -/
def isAsking : Event → Bool
  | .question _ _ | .asked _ _ | .formatted _ _ => true
  | _ => false

/-- What happens on a message's way to its sink and in the sink itself, before
any function of the host acts. -/
def isConveyance : Event → Bool
  | .printed _ _ | .polled _ | .status _ | .transfer _ => false
  | _ => true

theorem conveyance_of_asking
    {trace : Trace} (asks : trace.all isAsking) : trace.all isConveyance := by
  rw [List.all_eq_true] at asks ⊢
  intro event member
  have isAsking := asks event member
  cases event <;> first | rfl | cases isAsking

/-! ## The events of the gate -/

/-- Whether an event belongs to an emission's way through the gate. -/
def isPassage : Event → Bool
  | .question _ _ | .formatted _ _ | .delivery _ _ => true
  | .asked _ _ | .received _ _ => true
  | _ => false

/-- The events of a trace at the gate. -/
def passages (trace : Trace) : Trace :=
  trace.filter isPassage

/-- The signals that a trace delivers. -/
def deliveries (trace : Trace) : List Signal :=
  trace.filterMap fun
    | .delivery _ signal => some signal
    | _ => none

section Asking

variable {trace : Trace}

theorem deliveries_of_asking
    (asks : trace.all isAsking) : trace.deliveries = [] := by
  apply filterMap_of_kind _ asks
  intro event isAsking
  cases event <;> first | rfl | cases isAsking

theorem lockSteps_of_asking
    (asks : trace.all isAsking) : trace.lockSteps = [] := by
  apply filterMap_of_kind _ asks
  intro event isAsking
  cases event <;> first | rfl | cases isAsking

theorem records_of_asking
    (asks : trace.all isAsking) : trace.records = [] := by
  apply filterMap_of_kind _ asks
  intro event isAsking
  cases event <;> first | rfl | cases isAsking

end Asking

theorem passages_eq_filterMap (trace : Trace) :
    passages trace = trace.filterMap (Option.guard isPassage) :=
  List.filterMap_eq_filter.symm ▸ rfl

section Passages

variable (left right trace : Trace)

@[simp]
theorem passages_nil : passages [] = [] := rfl

@[simp]
theorem passages_append :
    passages (left ++ right) = passages left ++ passages right :=
  List.filter_append left right

@[simp]
theorem passages_cons (event : Event) :
    passages (event :: trace) =
      if isPassage event then event :: passages trace else passages trace :=
  List.filter_cons

@[simp]
theorem passages_reading (scope : Scope) :
    passages (reading scope trace) = passages trace := by
  rw [passages_eq_filterMap, passages_eq_filterMap]
  exact filterMap_reading (fun _ => rfl) scope trace

@[simp]
theorem passages_holding (mutex : Mutex) :
    passages (holding mutex trace) = passages trace := by
  rw [passages_eq_filterMap, passages_eq_filterMap]
  exact filterMap_holding (fun _ => rfl) mutex trace

@[simp]
theorem passages_upTo (maximum : Verbosity) :
    passages (upTo maximum trace) = passages trace := by
  rw [passages_eq_filterMap, passages_eq_filterMap]
  exact filterMap_upTo (fun _ => rfl) maximum trace

@[simp]
theorem deliveries_nil : deliveries [] = [] := rfl

@[simp]
theorem deliveries_append :
    deliveries (left ++ right) = deliveries left ++ deliveries right :=
  List.filterMap_append

@[simp]
theorem deliveries_reading (scope : Scope) :
    deliveries (reading scope trace) = deliveries trace :=
  filterMap_reading (fun _ => rfl) scope trace

@[simp]
theorem deliveries_writing (scope : Scope) :
    deliveries (writing scope trace) = deliveries trace :=
  filterMap_writing (fun _ => rfl) scope trace

@[simp]
theorem deliveries_upTo (maximum : Verbosity) :
    deliveries (upTo maximum trace) = deliveries trace :=
  filterMap_upTo (fun _ => rfl) maximum trace

/-- Deliveries are events of the gate. -/
theorem deliveries_passages : deliveries (passages trace) = deliveries trace := by
  induction trace with
  | nil => rfl
  | cons event rest inductionHypothesis =>
      rw [passages_cons]
      cases event <;> simp_all [deliveries, isPassage]

end Passages

/-! ## Transfers and records -/

section Output

variable (trace : Trace)

@[simp]
theorem transfers_map (list : List Transfer) :
    transfers (list.map .transfer) = list := by
  induction list with
  | nil => rfl
  | cons transfer rest inductionHypothesis =>
      rw [List.map_cons]
      exact congrArg (transfer :: ·) inductionHypothesis

@[simp]
theorem transfers_formatted (taken : Nat) (announced : Bool) :
    transfers (.formatted taken announced :: trace) = transfers trace := rfl

@[simp]
theorem transfers_reading (scope : Scope) :
    transfers (reading scope trace) = transfers trace :=
  filterMap_reading (fun _ => rfl) scope trace

@[simp]
theorem transfers_writing (scope : Scope) :
    transfers (writing scope trace) = transfers trace :=
  filterMap_writing (fun _ => rfl) scope trace

@[simp]
theorem transfers_holding (mutex : Mutex) :
    transfers (holding mutex trace) = transfers trace :=
  filterMap_holding (fun _ => rfl) mutex trace

@[simp]
theorem transfers_upTo (maximum : Verbosity) :
    transfers (upTo maximum trace) = transfers trace :=
  filterMap_upTo (fun _ => rfl) maximum trace

@[simp]
theorem shown_holding (mutex : Mutex) :
    shown (holding mutex trace) = shown trace := by
  simp [shown, holding]

@[simp]
theorem shown_formatted (taken : Nat) (announced : Bool) :
    shown (.formatted taken announced :: trace) = shown trace := rfl

@[simp]
theorem shown_reading (scope : Scope) :
    shown (reading scope trace) = shown trace := by
  cases scope with
  | own => rfl
  | shared => simp [shown, reading]

@[simp]
theorem shown_writing (scope : Scope) :
    shown (writing scope trace) = shown trace := by
  cases scope with
  | own => rfl
  | shared => simp [shown, writing]

@[simp]
theorem shown_upTo (maximum : Verbosity) :
    shown (upTo maximum trace) = shown trace := by
  induction trace with
  | nil => rfl
  | cons event rest inductionHypothesis =>
      rw [upTo] at inductionHypothesis
      rw [upTo, List.filter_cons]
      split
      · exact congrArg (_ ++ ·) inductionHypothesis
      -- Only a record is kept back, and it shows nothing.
      · cases event with
        | record record => exact inductionHypothesis
        | _ => contradiction

@[simp]
theorem records_map (list : List Transfer) :
    records (list.map .transfer) = [] := by
  induction list with
  | nil => rfl
  | cons transfer rest inductionHypothesis => exact inductionHypothesis

@[simp]
theorem records_formatted (taken : Nat) (announced : Bool) :
    records (.formatted taken announced :: trace) = records trace := rfl

@[simp]
theorem records_writing (scope : Scope) :
    records (writing scope trace) = records trace :=
  filterMap_writing (fun _ => rfl) scope trace

@[simp]
theorem records_holding (mutex : Mutex) :
    records (holding mutex trace) = records trace :=
  filterMap_holding (fun _ => rfl) mutex trace

/-- The records that the journal lets through. -/
theorem records_upTo (maximum : Verbosity) :
    records (upTo maximum trace) =
      (records trace).filter fun record => maximum.admits record.level := by
  induction trace with
  | nil => rfl
  | cons event rest inductionHypothesis =>
      rw [upTo] at inductionHypothesis
      rw [upTo, List.filter_cons]
      cases event with
      | record record =>
          have head :
              records (.record record :: rest) = record :: records rest := rfl
          rw [head, List.filter_cons, sees]
          split
          · rw [← inductionHypothesis]
            rfl
          · exact inductionHypothesis
      | _ => exact inductionHypothesis

end Output

end SignalHub.Trace
