import Mathlib.Data.List.Nodup
import SignalHub.Proofs.Category
import SignalHub.Proofs.Text.ByteOrder

/-!
# Lists of categories

A list stands for the set of its entries: neither their order nor repetitions,
blanks around them or empty entries matter, and two lists joined by a comma stand
for both sets together.  Which sets come back from the list of their members is
seen from the members.
-/

namespace SignalHub

open Text

namespace CategorySet

/-! ## Sets built step by step -/

/-- Two sets cannot be told apart by what they accept or list. -/
structure Same (left right : CategorySet) : Prop where
  accepts : ∀ category, left.accepts category = right.accepts category
  enabled : left.enabled = right.enabled

section Distinct

variable {set : CategorySet}

theorem nodup_enable
    (distinct : set.members.Nodup) (category : String) :
    (set.enable category).members.Nodup := by
  rw [enable]
  split
  · exact distinct
  · next missing =>
      have absent : category ∉ set.members := by
        simpa [accepts] using missing
      rw [← List.concat_eq_append]
      exact distinct.concat absent

theorem nodup_extend
    (distinct : set.members.Nodup) (categories : List String) :
    (set.extend categories).members.Nodup := by
  induction categories generalizing set with
  | nil => exact distinct
  | cons category rest inductionHypothesis =>
      exact inductionHypothesis (nodup_enable distinct category)

theorem nodup_perform
    (distinct : set.members.Nodup) (step : Step) :
    (set.perform step).1.members.Nodup := by
  cases step with
  | enable category => exact nodup_enable distinct category
  | disable category => exact distinct.filter _
  | extend categories => exact nodup_extend distinct categories
  | accepts category => exact distinct

theorem nodup_parse (list : String) : (parse list).members.Nodup :=
  nodup_extend List.nodup_nil (entries list)

theorem nodup_ofStart : ∀ start, (ofStart start).members.Nodup
  | .empty => List.nodup_nil
  | .list text => nodup_parse text
  | .members categories => nodup_extend List.nodup_nil categories
  | .variable value => by
      rw [ofStart, ofVariable]
      split
      · exact nodup_parse _
      · exact List.nodup_nil

/-- However a set is built, it has no member twice. -/
theorem nodup_performAll
    (distinct : set.members.Nodup) (steps : List Step) :
    (set.performAll steps).members.Nodup := by
  induction steps generalizing set with
  | nil => exact distinct
  | cons step rest inductionHypothesis =>
      exact inductionHypothesis (nodup_perform distinct step)

end Distinct

theorem mem_enabled {set : CategorySet} {category : String} :
    category ∈ set.enabled ↔ set.accepts category = true := by
  rw [enabled, List.mem_mergeSort, accepts, List.contains_iff_mem]

theorem same_of_accepts
    {left right : CategorySet} (distinct : left.members.Nodup)
    (distinctToo : right.members.Nodup)
    (alike : ∀ category,
      left.accepts category = true ↔ right.accepts category = true) :
    Same left right := by
  constructor
  · intro category
    exact Bool.eq_iff_iff.mpr (alike category)
  · apply mergeSort_eq_of_perm
    rw [List.perm_ext_iff_of_nodup distinct distinctToo]
    intro category
    simpa [accepts] using alike category

/-! ## Entries -/

/-- A category that can stand in a list as it is. -/
structure Plain (category : String) : Prop where
  something : category ≠ ""
  unseparated : ',' ∉ category.toList
  first : ∀ character ∈ category.toList.head?, isBlank character = false
  last : ∀ character ∈ category.toList.getLast?, isBlank character = false

theorem Listed.plain
    {list category : String} (listed : Listed list category) :
    Plain category := by
  obtain ⟨piece, ⟨parts, _, free, member⟩, trims⟩ := listed.found
  obtain ⟨before, after, split, _, _⟩ := trims.around
  refine ⟨listed.something, ?_, trims.first, trims.last⟩
  intro inside
  apply free piece member
  rw [split]
  exact
    List.mem_append_left after (List.mem_append_right before inside)

theorem Plain.trim_eq
    {category : String} (plain : Plain category) :
    trim category = category := by
  have trims : Trims category.toList category.toList :=
    ⟨⟨[], [], by simp, rfl, rfl⟩, plain.first, plain.last⟩
  rw [trim, trims.trimChars_eq, String.ofList_toList]

/-- What has no comma in it is one entry at most. -/
theorem entries_of_unseparated
    {part : String} (unseparated : ',' ∉ part.toList) :
    entries part = if trim part = "" then [] else [trim part] := by
  rw [entries, pieces_of_not_mem unseparated, trim]
  by_cases nothing : trimChars part.toList = [] <;> simp [nothing]

theorem mem_entries_of_unseparated
    {part entry : String} (unseparated : ',' ∉ part.toList) :
    entry ∈ entries part ↔ entry ≠ "" ∧ trim part = entry := by
  rw [entries_of_unseparated unseparated]
  by_cases nothing : trim part = ""
  · rw [if_pos nothing, nothing]
    exact iff_of_false List.not_mem_nil fun both => both.1 both.2.symm
  · rw [if_neg nothing, List.mem_singleton, eq_comm]
    exact (and_iff_right_of_imp fun same => same ▸ nothing).symm

theorem entries_of_plain
    {category : String} (plain : Plain category) :
    entries category = [category] := by
  rw [entries_of_unseparated plain.unseparated, plain.trim_eq,
    if_neg plain.something]

theorem entries_append (left right : String) :
    entries (left ++ "," ++ right) = entries left ++ entries right := by
  have separated :
      (left ++ "," ++ right).toList = left.toList ++ ',' :: right.toList := by
    simp
  simp only [entries, separated, pieces_append_separator, List.map_append,
    List.filterMap_append]

/-- Parts as one list. -/
def commaList (parts : List String) : String :=
  ",".intercalate parts

theorem entries_commaList (parts : List String) :
    entries (commaList parts) = parts.flatMap entries := by
  induction parts with
  | nil => rfl
  | cons part rest inductionHypothesis =>
      cases rest with
      | nil => simp [commaList]
      | cons next others =>
          rw [commaList, String.intercalate_cons_cons, entries_append,
            List.flatMap_cons, ← inductionHypothesis]
          rfl

theorem accepts_parse_commaList {parts : List String} {category : String} :
    (parse (commaList parts)).accepts category = true ↔
      ∃ part ∈ parts, category ∈ entries part := by
  rw [accepts_parse, ← mem_entries, entries_commaList, List.mem_flatMap]

/-- The members of a set as one list. -/
def memberList (set : CategorySet) : String :=
  commaList set.enabled

/-- Only the entries of a list count, not how it is set out. -/
theorem same_of_entries
    {parts others : List String}
    (unseparated : ∀ part ∈ parts, ',' ∉ part.toList)
    (unseparatedToo : ∀ part ∈ others, ',' ∉ part.toList)
    (alike : ∀ entry, entry ≠ "" →
      (entry ∈ parts.map trim ↔ entry ∈ others.map trim)) :
    Same (parse (commaList parts)) (parse (commaList others)) := by
  have found :
      ∀ (written : List String), (∀ part ∈ written, ',' ∉ part.toList) →
        ∀ entry, (parse (commaList written)).accepts entry = true ↔
          entry ≠ "" ∧ entry ∈ written.map trim := by
    intro written free entry
    rw [accepts_parse_commaList, List.mem_map, ← exists_and_left]
    refine exists_congr fun part => ?_
    rw [and_left_comm]
    exact
      and_congr_right fun member =>
        mem_entries_of_unseparated (free part member)
  refine same_of_accepts (nodup_parse _) (nodup_parse _) ?_
  intro category
  rw [found parts unseparated, found others unseparatedToo]
  exact and_congr_right (alike category)

/-- A set comes back from the list of its members if none of them needs more than
to be listed. -/
theorem same_parse_memberList_iff
    {set : CategorySet} (distinct : set.members.Nodup) :
    Same (parse set.memberList) set ↔
      ∀ category, set.accepts category = true → Plain category := by
  constructor
  · intro same category accepted
    rw [← same.accepts] at accepted
    exact (accepts_parse.mp accepted).plain
  · intro plain
    refine same_of_accepts (nodup_parse _) distinct ?_
    intro category
    rw [memberList, accepts_parse_commaList]
    constructor
    · rintro ⟨part, member, found⟩
      have accepted := mem_enabled.mp member
      rw [entries_of_plain (plain part accepted),
        List.mem_singleton] at found
      exact found ▸ accepted
    · intro accepted
      refine ⟨category, mem_enabled.mpr accepted, ?_⟩
      rw [entries_of_plain (plain category accepted), List.mem_singleton]

/-- What is read of a list, and what is written as one. -/
structure StandsForEntries : Prop where
  accepts : ∀ text category,
    (parse text).accepts category = true ↔ Listed text category
  plain : ∀ text category,
    (parse text).accepts category = true → Plain category
  union : ∀ left right,
    Same (parse (left ++ "," ++ right))
        ((parse left).extend (parse right).enabled) ∧
      ∀ category, (parse (left ++ "," ++ right)).accepts category =
        ((parse left).accepts category || (parse right).accepts category)
  /-- Neither order nor repetitions, blanks or empty entries matter. -/
  arrangement : ∀ parts others : List String,
    (∀ part ∈ parts ++ others, ',' ∉ part.toList) →
      (∀ entry, entry ≠ "" →
        (entry ∈ parts.map trim ↔ entry ∈ others.map trim)) →
        Same (parse (commaList parts)) (parse (commaList others))
  /-- However the set was built. -/
  returns : ∀ (start : Start) (steps : List Step),
    Same (parse ((ofStart start).performAll steps).memberList)
        ((ofStart start).performAll steps) ↔
      ∀ category, ((ofStart start).performAll steps).accepts category = true →
        Plain category
  again : ∀ text, Same (parse (parse text).memberList) (parse text)

theorem accepts_parse_append (left right category : String) :
    (parse (left ++ "," ++ right)).accepts category =
      ((parse left).accepts category || (parse right).accepts category) := by
  rw [Bool.eq_iff_iff, Bool.or_eq_true, accepts_parse, accepts_parse,
    accepts_parse, ← mem_entries, ← mem_entries, ← mem_entries,
    entries_append, List.mem_append]

theorem lists_stand_for_entries : StandsForEntries := by
  constructor
  · intro text category
    exact accepts_parse
  · intro text category accepted
    exact (accepts_parse.mp accepted).plain
  · intro left right
    have joined := accepts_parse_append left right
    have distinct :=
      nodup_extend (nodup_parse left) (parse right).enabled
    refine ⟨same_of_accepts (nodup_parse _) distinct ?_, joined⟩
    intro category
    rw [joined, Bool.or_eq_true, accepts_extend, mem_enabled]
  · intro parts others unseparated alike
    refine same_of_entries ?_ ?_ alike
    · intro part member
      exact unseparated part (List.mem_append_left others member)
    · intro part member
      exact unseparated part (List.mem_append_right parts member)
  · intro start steps
    exact same_parse_memberList_iff (nodup_performAll (nodup_ofStart start) steps)
  · intro text
    rw [same_parse_memberList_iff (nodup_parse text)]
    intro category accepted
    exact (accepts_parse.mp accepted).plain

/-- A list with blanks, an empty entry and a repetition is the list of its
entries. -/
theorem lists_stand_for_entries_spaced :
    (parse "ERROR, WARNING,,Beacon ,ERROR").enabled =
      (parse "Beacon,ERROR,WARNING").enabled := by
  have trimmed :
      ["ERROR", " WARNING", "", "Beacon ", "ERROR"].map trim =
          ["ERROR", "WARNING", "", "Beacon", "ERROR"] ∧
        ["Beacon", "ERROR", "WARNING"].map trim =
          ["Beacon", "ERROR", "WARNING"] := by
    decide
  have alike : ∀ entry, entry ≠ "" →
      (entry ∈ ["ERROR", " WARNING", "", "Beacon ", "ERROR"].map trim ↔
        entry ∈ ["Beacon", "ERROR", "WARNING"].map trim) := by
    intro entry something
    rw [trimmed.1, trimmed.2]
    simp only [List.mem_cons, something, List.not_mem_nil, or_false, false_or]
    tauto
  have same :=
    lists_stand_for_entries.arrangement
      ["ERROR", " WARNING", "", "Beacon ", "ERROR"]
      ["Beacon", "ERROR", "WARNING"] (by decide) alike
  exact same.enabled

end CategorySet

end SignalHub
