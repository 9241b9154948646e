import Mathlib.Data.List.Induction
import SignalHub.Proofs.Category.Lists

/-!
# Membership after any steps

Whatever steps a set goes through, the last one that names a category decides
whether it is a member; a category that no step names is as it was at the start.
What a set lists, and whether it is empty, is read off its members.
-/

namespace SignalHub

open Text

namespace CategorySet

/-! ## What the steps say -/

/-- The categories that a set has from the start: those given one by one, taken as
they stand, or the entries of a list. -/
def Start.Includes (category : String) : Start → Prop
  | .empty => False
  | .list text => Listed text category
  | .members categories => category ∈ categories
  | .variable value =>
      ∃ text, value = some (bytes text) ∧ Listed text category

namespace Step

/-- The categories that a step puts in or takes out. -/
def named : Step → List String
  | .enable category | .disable category => [category]
  | .extend categories => categories
  | .accepts _ => []

/-- Whether a step puts in what it names. -/
def enables : Step → Bool
  | .disable _ => false
  | _ => true

end Step

/-- The last step that names a category puts it in. -/
def LastEnabled (steps : List Step) (category : String) : Prop :=
  ∃ before step after,
    steps = before ++ step :: after ∧
      category ∈ step.named ∧ step.enables = true ∧
      ∀ later ∈ after, category ∉ later.named

/-- No step names a category. -/
def Unnamed (steps : List Step) (category : String) : Prop :=
  ∀ step ∈ steps, category ∉ step.named

section Concat

variable (steps : List Step) {step : Step} {category : String}

theorem unnamed_concat :
    Unnamed (steps ++ [step]) category ↔
      Unnamed steps category ∧ category ∉ step.named := by
  simp [Unnamed, or_imp, forall_and]

/-- A step that names the category has the last word, and any other leaves it to
those before. -/
theorem lastEnabled_concat :
    LastEnabled (steps ++ [step]) category ↔
      category ∈ step.named ∧ step.enables = true ∨
        category ∉ step.named ∧ LastEnabled steps category := by
  constructor
  · rintro ⟨before, other, after, split, names, enables, silent⟩
    rcases List.eq_nil_or_concat' after with rfl | ⟨others, last, rfl⟩
    · obtain ⟨_, same⟩ := List.append_inj' split rfl
      rw [List.singleton_inj.mp same]
      exact Or.inl ⟨names, enables⟩
    · rw [← List.cons_append, ← List.append_assoc] at split
      obtain ⟨earlier, same⟩ := List.append_inj' split rfl
      obtain ⟨quiet, unnamed⟩ := List.forall_mem_append.mp silent
      rw [List.singleton_inj.mp same]
      exact
        Or.inr
          ⟨unnamed last List.mem_cons_self,
            before, other, others, earlier, names, enables, quiet⟩
  · rintro (⟨names, enables⟩ |
      ⟨unnamed, before, other, after, rfl, names, enables, silent⟩)
    · exact ⟨steps, step, [], rfl, names, enables, List.forall_mem_nil _⟩
    · refine
        ⟨before, other, after ++ [step], ?_, names, enables,
          List.forall_mem_append.mpr ⟨silent, ?_⟩⟩
      · rw [List.append_assoc, List.cons_append]
      · exact List.forall_mem_singleton.mpr unnamed

end Concat

/-! ## What the set accepts -/

theorem accepts_ofStart {category : String} :
    ∀ {start : Start},
      (ofStart start).accepts category = true ↔ start.Includes category
  | .empty => iff_of_false Bool.false_ne_true id
  | .list _ => accepts_parse
  | .members categories => by
      have fresh : empty.accepts category = false := rfl
      rw [ofStart, ofList, accepts_extend, fresh]
      exact or_iff_right Bool.false_ne_true
  | .variable _ => accepts_ofVariable

theorem accepts_perform (set : CategorySet) (step : Step) (category : String) :
    (set.perform step).1.accepts category =
      if category ∈ step.named then step.enables
      else set.accepts category := by
  cases step with
  | enable other =>
      rw [perform, accepts_enable]
      by_cases same : category = other <;> simp [Step.named, Step.enables, same]
  | disable other =>
      rw [perform, accepts_disable]
      by_cases same : category = other <;> simp [Step.named, Step.enables, same]
  | extend categories =>
      rw [perform, Bool.eq_iff_iff, accepts_extend]
      by_cases member : category ∈ categories <;>
        simp [Step.named, Step.enables, member]
  | accepts other => rfl

/-- The induction is on the steps from the last one back: it decides, or leaves the
decision to the steps before it. -/
theorem accepts_performAll
    (set : CategorySet) (steps : List Step) (category : String) :
    (set.performAll steps).accepts category = true ↔
      LastEnabled steps category ∨
        Unnamed steps category ∧ set.accepts category = true := by
  induction steps using List.reverseRecOn with
  | nil =>
      have nobody : ¬ LastEnabled [] category := by
        rintro ⟨before, step, after, split, _⟩
        cases before <;> cases split
      have unnamed : Unnamed [] category := List.forall_mem_nil _
      rw [or_iff_right nobody, and_iff_right unnamed]
      rfl
  | append_singleton steps step inductionHypothesis =>
      have last :
          set.performAll (steps ++ [step]) =
            ((set.performAll steps).perform step).1 := by
        rw [performAll, List.foldl_append]
        rfl
      rw [last, accepts_perform, lastEnabled_concat, unnamed_concat]
      by_cases names : category ∈ step.named
      · simp [names]
      · simp [names, inductionHypothesis]

/-! ## What the set lists -/

theorem isEmpty_iff {set : CategorySet} :
    set.isEmpty = true ↔ ∀ category, set.accepts category = false := by
  simp [isEmpty, accepts, List.eq_nil_iff_forall_not_mem]

/-- Texts that are sorted and all different go strictly upwards. -/
theorem enabled_increasing
    {set : CategorySet} (distinct : set.members.Nodup) :
    set.enabled.Pairwise fun left right => bytes left < bytes right := by
  have different : set.enabled.Nodup :=
    (List.mergeSort_perm set.members byteLe).nodup_iff.mpr distinct
  have sorted := pairwise_mergeSort_byteLe set.members
  refine (sorted.and different).imp ?_
  rintro left right ⟨before, apart⟩
  have within : bytes left ≤ bytes right := of_decide_eq_true before
  rcases List.le_iff_lt_or_eq.mp within with less | same
  · exact less
  · exact absurd (bytes_injective same) apart

/-- The set that a value of an environment variable stands for: that of the text
whose form the value is, or none. -/
theorem ofVariable_cases (value : Option Bytes) :
    (∃ text, value = some (bytes text) ∧ ofVariable value = parse text) ∨
      (∀ text, value ≠ some (bytes text)) ∧ ofVariable value = empty := by
  rw [ofVariable]
  cases read : value.bind decode? with
  | some text =>
      obtain ⟨input, rfl, isText⟩ := Option.bind_eq_some_iff.mp read
      rw [decode?_eq_some.mp isText]
      exact Or.inl ⟨text, rfl, rfl⟩
  | none =>
      refine Or.inr ⟨?_, rfl⟩
      rintro text rfl
      have known : decode? (bytes text) = some text := decode?_eq_some.mpr rfl
      rw [Option.bind_some, known] at read
      cases read

/-- A set is what the steps since its start made of it. -/
structure Remembers
    (start : Start) (steps : List Step) (set : CategorySet) : Prop where
  accepts : ∀ category,
    set.accepts category = true ↔
      LastEnabled steps category ∨
        Unnamed steps category ∧ start.Includes category
  /-- Who takes a category out is told whether it was in, and no other category is
  touched. -/
  disables : ∀ category, ∃ after removed,
    set.perform (.disable category) = (after, some removed) ∧
      (removed = true ↔ set.accepts category = true) ∧
      ∀ other,
        after.accepts other = (set.accepts other && other != category)
  enabled : ∀ category,
    category ∈ set.enabled ↔ set.accepts category = true
  increasing : set.enabled.Pairwise fun left right => bytes left < bytes right
  empty : set.isEmpty = true ↔ ∀ category, set.accepts category = false

/-- Whatever a set starts with and whatever steps are made, it has no memory but
that of the last step for each category, lists its members once and in the order of
their bytes, and is empty when it has none.  A variable that is not set or whose
value is no text starts it with nothing, and any other with what its text lists. -/
theorem membership_follows_last_steps :
    (∀ (start : Start) (steps : List Step),
      Remembers start steps ((ofStart start).performAll steps)) ∧
      ∀ value : Option Bytes,
        (∃ text, value = some (bytes text) ∧
            ofStart (.variable value) = ofStart (.list text)) ∨
          (∀ text, value ≠ some (bytes text)) ∧
            ofStart (.variable value) = ofStart .empty := by
  refine ⟨?_, ofVariable_cases⟩
  intro start steps
  constructor
  · intro category
    rw [accepts_performAll, accepts_ofStart]
  · intro category
    exact ⟨_, _, rfl, Iff.rfl, accepts_disable _ category⟩
  · intro category
    exact mem_enabled
  · exact enabled_increasing (nodup_performAll (nodup_ofStart start) steps)
  · exact isEmpty_iff

/-- A category with a comma in it is one category. -/
example :
    let set :=
      (ofStart (.list " b ,a")).performAll [.disable "b", .enable "a,b"]
    set.accepts "a" = true ∧ set.accepts "a,b" = true ∧
      set.accepts "b" = false := by
  decide +kernel

end CategorySet

end SignalHub
