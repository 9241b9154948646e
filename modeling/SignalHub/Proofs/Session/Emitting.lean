import SignalHub.Proofs.Session.Gate

/-!
# Emissions of either side

What a step emits, and on which hub: a caller's own emissions go to the hub of
the session, those of the foreign side to the shared one.
-/

namespace SignalHub

open Text

/-- What a call from the foreign side emits. -/
def ForeignCall.emission? : ForeignCall → Option Emission
  | .emit category file function line message =>
      some
        ⟨incoming category, Foreign.originOf file function line,
          Message.text (incoming message)⟩
  | .emitBySeverity index file function line message =>
      (Severity.ofIndex? index).map fun severity =>
        ⟨severity.name, Foreign.originOf file function line,
          Message.text (incoming message)⟩
  | .emitAssertion file function line message =>
      some
        ⟨Severity.warning.name, Foreign.originOf file function line,
          Message.text (incoming message)⟩
  | .emitSystemFault index message file function line code =>
      (Severity.ofIndex? index).map fun severity =>
        ⟨severity.name, Foreign.originOf file function line,
          Message.systemFault (incoming message) code⟩
  | _ => none

/-- The emission that a step is, and the hub that it is made on. -/
def Step.emissionOn? (within : Scope) : Step → Option (Scope × Emission)
  | .foreign call => call.emission?.map fun emission => (.shared, emission)
  | step => step.emission?.map fun emission => (within, emission)

namespace Host

def emitted (host : Host) (scope : Scope) (emission : Emission) :
    Host × Trace :=
  host.emit scope emission.category emission.origin emission.message

theorem answer_of_emission
    {call : ForeignCall} {emission : Emission}
    (emits : call.emission? = some emission) (host : Host) (build : Build) :
    host.answer build call =
      ((host.emitted .shared emission).1, (host.emitted .shared emission).2,
        .nothing) := by
  cases call with
  | emit =>
      cases emits
      rfl
  | emitAssertion =>
      cases emits
      rfl
  | emitBySeverity level =>
      obtain ⟨severity, inside, rfl⟩ := Option.map_eq_some_iff.mp emits
      rw [answer, Foreign.emitBySeverity, Severity.ofIndex, inside]
      rfl
  | emitSystemFault level =>
      obtain ⟨severity, inside, rfl⟩ := Option.map_eq_some_iff.mp emits
      rw [answer, Foreign.emitSystemFault, Severity.ofIndex, inside]
      rfl
  | _ => cases emits

end Host

theorem Session.perform_of_emissionOn
    {session : Session} {step : Step} {scope : Scope} {emission : Emission}
    (emits : step.emissionOn? session.scope = some (scope, emission)) :
    session.perform step =
      ({ session with host := (session.host.emitted scope emission).1 },
        (session.host.emitted scope emission).2, .nothing) := by
  cases step with
  | foreign call =>
      obtain ⟨inner, emits, same⟩ := Option.map_eq_some_iff.mp emits
      cases same
      rw [perform, Host.answer_of_emission emits]
  | emit | emitAssertion =>
      cases emits
      rfl
  | emitBySeverity | emitSystemFault =>
      obtain ⟨inner, emits, same⟩ := Option.map_eq_some_iff.mp emits
      cases same
      exact perform_of_emission emits session
  | _ => cases emits

/-! ## Refused emissions -/

namespace Step

/-- Whether a step asks for an emission, on either side. -/
def isEmission : Step → Bool
  | .emit _ _ _ | .emitBySeverity _ _ _ => true
  | .emitAssertion _ _ | .emitSystemFault _ _ _ _ => true
  | .foreign (.emit _ _ _ _ _) => true
  | .foreign (.emitBySeverity _ _ _ _ _) => true
  | .foreign (.emitAssertion _ _ _ _) => true
  | .foreign (.emitSystemFault _ _ _ _ _ _) => true
  | _ => false

/-- The index that a step gives for a severity. -/
def level? : Step → Option Int
  | .emitBySeverity level _ _ | .emitSystemFault level _ _ _ => some level
  | .foreign (.emitBySeverity level _ _ _ _) => some level
  | .foreign (.emitSystemFault level _ _ _ _ _) => some level
  | _ => none

/-- What is left of an emission whose index is outside of the severity table: a
caller is told, and the foreign side leaves a record. -/
def refusal? (step : Step) : Option (Trace × Reply) :=
  match step.level?.map Severity.ofIndex with
  | some (.error fault) =>
      match step with
      | .foreign _ =>
          some ([.record (Record.invalidSeverity fault)], .nothing)
      | _ => some ([], .refused (.invalidSeverity fault))
  | _ => none

section Refusal

variable {step : Step} {within : Scope}

/-- Of a refused emission there is a record at most. -/
theorem conveyance_of_refusal
    {trace : Trace} {reply : Reply}
    (refuses : step.refusal? = some (trace, reply)) :
    trace.all Trace.isConveyance := by
  rw [refusal?] at refuses
  split at refuses
  · split at refuses <;> cases refuses <;> rfl
  · cases refuses

theorem emissionOn?_of_native
    {emission : Emission} (emits : step.emission? = some emission) :
    step.emissionOn? within = some (within, emission) := by
  cases step with
  | foreign call => cases emits
  | _ => exact congrArg (Option.map fun emission => (within, emission)) emits

theorem emissionOn?_of_foreign
    {call : ForeignCall} {emission : Emission}
    (emits : call.emission? = some emission) :
    (Step.foreign call).emissionOn? within = some (Scope.shared, emission) :=
  congrArg (Option.map fun emission => (Scope.shared, emission)) emits

theorem scope_of_emissionOn
    {scope : Scope} {emission : Emission}
    (emits : step.emissionOn? within = some (scope, emission)) :
    scope = within ∨ scope = .shared := by
  cases step with
  | foreign call =>
      obtain ⟨_, _, same⟩ := Option.map_eq_some_iff.mp emits
      cases same
      exact Or.inr rfl
  | emit | emitAssertion =>
      cases emits
      exact Or.inl rfl
  | emitBySeverity | emitSystemFault =>
      obtain ⟨_, _, same⟩ := Option.map_eq_some_iff.mp emits
      cases same
      exact Or.inl rfl
  | _ => cases emits

theorem exists_refusal_of_level
    {level : Int} {fault : InvalidSeverity} (gives : step.level? = some level)
    (outside : Severity.ofIndex level = .error fault) :
    ∃ trace reply, step.refusal? = some (trace, reply) := by
  rw [refusal?, gives, Option.map_some, outside]
  cases step <;> exact ⟨_, _, rfl⟩

theorem exists_emission_of_level
    {level : Int} {severity : Severity} (gives : step.level? = some level)
    (inside : Severity.ofIndex? level = some severity) :
    ∃ scope emission, step.emissionOn? within = some (scope, emission) := by
  cases step with
  | emitBySeverity | emitSystemFault =>
      cases gives
      exact ⟨_, _, emissionOn?_of_native (congrArg (Option.map _) inside)⟩
  | foreign call =>
      cases call with
      | emitBySeverity | emitSystemFault =>
          cases gives
          exact ⟨_, _, emissionOn?_of_foreign (congrArg (Option.map _) inside)⟩
      | _ => cases gives
  | _ => cases gives

theorem emits_or_refuses
    (asks : step.isEmission = true) (within : Scope) :
    (∃ scope emission, step.emissionOn? within = some (scope, emission)) ∨
      ∃ trace reply, step.refusal? = some (trace, reply) := by
  cases gives : step.level? with
  | some level =>
      cases inside : Severity.ofIndex? level with
      | some severity =>
          exact Or.inl (exists_emission_of_level gives inside)
      | none =>
          have outside : Severity.ofIndex level = .error ⟨level⟩ := by
            rw [Severity.ofIndex, inside]
          exact Or.inr (exists_refusal_of_level gives outside)
  | none =>
      cases step with
      | emit | emitAssertion => exact Or.inl ⟨_, _, rfl⟩
      | foreign call =>
          cases call with
          | emit | emitAssertion => exact Or.inl ⟨_, _, rfl⟩
          | emitBySeverity | emitSystemFault => cases gives
          | _ => cases asks
      | emitBySeverity | emitSystemFault => cases gives
      | _ => cases asks

end Refusal

end Step

theorem Session.perform_of_refusal
    {step : Step} {trace : Trace} {reply : Reply}
    (refuses : step.refusal? = some (trace, reply)) (session : Session) :
    session.perform step = (session, trace, reply) := by
  rw [Step.refusal?] at refuses
  cases gives : step.level? with
  | none =>
      rw [gives] at refuses
      cases refuses
  | some level =>
      rw [gives, Option.map_some] at refuses
      cases outside : Severity.ofIndex level with
      | ok severity =>
          rw [outside] at refuses
          cases refuses
      | error fault =>
          rw [outside] at refuses
          cases step with
          | emitBySeverity | emitSystemFault =>
              cases gives
              cases refuses
              rw [perform, bySeverity, outside]
          | foreign call =>
              cases call with
              | emitBySeverity =>
                  cases gives
                  cases refuses
                  rw [perform, Host.answer, Foreign.emitBySeverity, outside]
              | emitSystemFault =>
                  cases gives
                  cases refuses
                  rw [perform, Host.answer, Foreign.emitSystemFault, outside]
              | _ => cases gives
          | _ => cases gives

end SignalHub
