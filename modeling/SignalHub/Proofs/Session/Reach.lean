import SignalHub.Session

/-!
# Runs of a session

Where a session is after some steps, and what the answers of a run have to do
with it: a run over steps in two parts is the run of the first part followed by
the run of the second from where the first one ended.
-/

namespace SignalHub

/-- The reply of a poll, if there was a buffer. -/
def Reply.ofPolled : Option (List Signal) → Reply
  | some polled => .signals polled
  | none => .nothing

namespace Session

/-- The answer to one step. -/
def answer (session : Session) (step : Step) : Answer :=
  (session.perform step).1.answerOf (session.perform step).2.1
    (session.perform step).2.2

/-- The session after one step, unless the step aborted it. -/
def next (session : Session) (step : Step) : Option Session :=
  match (session.perform step).2.2 with
  | .aborted => none
  | _ => some (session.perform step).1.settle

/-- The session after steps, unless one of them aborted it. -/
def reach (session : Session) : List Step → Option Session
  | [] => some session
  | step :: rest => (session.next step).bind fun after => after.reach rest

theorem reply_answer (session : Session) (step : Step) :
    (session.answer step).reply = (session.perform step).2.2 := by
  rw [answer]
  cases (session.perform step).2.2 <;> rfl

theorem trace_answer (session : Session) (step : Step) :
    (session.answer step).trace =
      (session.perform step).2.1.upTo (session.perform step).1.maximum := by
  rw [answer]
  cases (session.perform step).2.2 <;> rfl

/-- Of a step that goes on no file is shown, and nothing is lost. -/
theorem answerOf_of_goesOn
    {reply : Reply} (goesOn : reply ≠ .aborted) (session : Session)
    (trace : Trace) :
    session.answerOf trace reply =
      ⟨reply, trace.upTo session.maximum, trace.shown, []⟩ := by
  cases reply with
  | aborted => exact absurd rfl goesOn
  | _ => rfl

theorem next_of_reply
    {session : Session} {step : Step} {after : Session} {trace : Trace}
    {reply : Reply}
    (performed : session.perform step = (after, trace, reply))
    (continues : reply ≠ .aborted) :
    session.next step = some after.settle := by
  rw [next, performed]
  cases reply with
  | aborted => exact absurd rfl continues
  | _ => rfl

theorem eq_settle_of_next
    {session after : Session} {step : Step}
    (continues : session.next step = some after) :
    after = (session.perform step).1.settle := by
  rw [next] at continues
  split at continues
  · cases continues
  · exact (Option.some.inj continues).symm

theorem run_cons_of_next
    {session after : Session} {step : Step}
    (continues : session.next step = some after) (rest : List Step) :
    session.run (step :: rest) = session.answer step :: after.run rest := by
  rw [next] at continues
  rw [run, answer]
  cases reply : (session.perform step).2.2 with
  | aborted =>
      rw [reply] at continues
      cases continues
  | _ =>
      rw [reply] at continues
      cases continues
      simp only [reply]

theorem run_cons (session : Session) (step : Step) (rest : List Step) :
    session.run (step :: rest) =
      session.answer step ::
        match session.next step with
        | some after => after.run rest
        | none => [] := by
  rw [run, answer, next]
  cases reply : (session.perform step).2.2 with
  | _ => simp only [reply]

/-- The first answer is that to the first step, also when it is the last. -/
theorem head?_run_cons (session : Session) (step : Step) (rest : List Step) :
    (session.run (step :: rest))[0]? = some (session.answer step) := by
  rw [run, answer]
  cases reply : (session.perform step).2.2 with
  | _ => simp only [reply, List.getElem?_cons_zero]

theorem reach_append
    (session : Session) (first second : List Step) :
    session.reach (first ++ second) =
      (session.reach first).bind fun after => after.reach second := by
  induction first generalizing session with
  | nil => rfl
  | cons step rest inductionHypothesis =>
      simp only [List.cons_append, reach, Option.bind_assoc,
        inductionHypothesis]

section Reached

variable {session reached : Session} {first : List Step}

theorem reach_concat
    (arrives : session.reach first = some reached) (step : Step) :
    session.reach (first ++ [step]) = reached.next step := by
  rw [reach_append, arrives, Option.bind_some, reach]
  cases reached.next step <;> rfl

theorem run_append
    (arrives : session.reach first = some reached) (second : List Step) :
    session.run (first ++ second) = session.run first ++ reached.run second := by
  induction first generalizing session with
  | nil =>
      cases arrives
      rfl
  | cons step rest inductionHypothesis =>
      rw [reach] at arrives
      obtain ⟨after, continues, arrives⟩ := Option.bind_eq_some_iff.mp arrives
      rw [List.cons_append, run_cons_of_next continues,
        run_cons_of_next continues, inductionHypothesis arrives]
      rfl

@[simp]
theorem length_run
    (arrives : session.reach first = some reached) :
    (session.run first).length = first.length := by
  induction first generalizing session with
  | nil => rfl
  | cons step rest inductionHypothesis =>
      rw [reach] at arrives
      obtain ⟨after, continues, arrives⟩ := Option.bind_eq_some_iff.mp arrives
      rw [run_cons_of_next continues, List.length_cons, List.length_cons,
        inductionHypothesis arrives]

theorem run_concat
    (arrives : session.reach first = some reached) (step : Step) :
    session.run (first ++ [step]) =
      session.run first ++ [reached.answer step] := by
  rw [run_append arrives, run, answer]
  cases reply : (reached.perform step).2.2 with
  | aborted => simp only [reply]
  | _ => simp only [reply, run]

/-- The answer to the step after those that were made. -/
theorem getElem?_run
    (arrives : session.reach first = some reached)
    (step : Step) (rest : List Step) :
    (session.run (first ++ step :: rest))[first.length]? =
      some (reached.answer step) := by
  rw [run_append arrives, List.getElem?_append_right, length_run arrives,
    Nat.sub_self, head?_run_cons]
  exact Nat.le_of_eq (length_run arrives)

/-- Nothing follows a step that aborted. -/
theorem run_of_aborted
    (aborts : session.reach first = none) (second : List Step) :
    session.run (first ++ second) = session.run first := by
  induction first generalizing session with
  | nil => cases aborts
  | cons step rest inductionHypothesis =>
      rw [List.cons_append, run_cons, run_cons]
      rw [reach] at aborts
      cases continues : session.next step with
      | none => rfl
      | some after =>
          rw [continues, Option.bind_some] at aborts
          simp only [inductionHypothesis aborts]

end Reached

theorem length_run_le (session : Session) (steps : List Step) :
    (session.run steps).length ≤ steps.length := by
  induction steps generalizing session with
  | nil => exact Nat.le_refl 0
  | cons step rest inductionHypothesis =>
      rw [run_cons, List.length_cons, List.length_cons]
      cases session.next step with
      | none => exact Nat.succ_le_succ (Nat.zero_le _)
      | some after => exact Nat.succ_le_succ (inductionHypothesis after)

/-- Whoever watches has seen all that was printed. -/
def Settled (session : Session) : Prop :=
  session.settle = session

theorem settled_next
    {session after : Session} {step : Step}
    (continues : session.next step = some after) : after.Settled := by
  rw [eq_settle_of_next continues]
  rfl

theorem Settled.reach
    {session reached : Session} (settled : session.Settled)
    {steps : List Step} (arrives : session.reach steps = some reached) :
    reached.Settled := by
  induction steps generalizing session with
  | nil =>
      cases arrives
      exact settled
  | cons step rest inductionHypothesis =>
      rw [Session.reach] at arrives
      obtain ⟨after, continues, arrives⟩ := Option.bind_eq_some_iff.mp arrives
      exact inductionHypothesis (settled_next continues) arrives

/-- A step that changes nothing can be left out: the other answers are the
same. -/
theorem eraseIdx_run
    {session : Session} (settled : session.Settled) {step : Step}
    (inert : ∀ reached : Session,
      reached.Settled → reached.next step = some reached)
    (before after : List Step) :
    (session.run (before ++ step :: after)).eraseIdx before.length =
      session.run (before ++ after) := by
  cases arrives : session.reach before with
  | none =>
      rw [run_of_aborted arrives, run_of_aborted arrives]
      exact List.eraseIdx_of_length_le (length_run_le session before)
  | some reached =>
      have continues := inert reached (settled.reach arrives)
      have paired := length_run arrives
      rw [run_append arrives, run_append arrives, run_cons_of_next continues,
        List.eraseIdx_append_of_length_le (Nat.le_of_eq paired), paired,
        Nat.sub_self, List.eraseIdx_cons_zero]

theorem settled_fresh
    (scope : Scope) (paint : Bool) (clock : String) (build : Build) :
    (fresh scope paint clock build).Settled := rfl

end Session

end SignalHub
