import SignalHub.Category
import SignalHub.Proofs.Text.Blank
import SignalHub.Proofs.Text.Pieces
import SignalHub.Proofs.Text.Utf8

/-!
# What a set of categories accepts

Categories given one by one are accepted as they stand.  Those of a list are
what stands between its commas, without the blanks around it, if that is
anything at all.
-/

namespace SignalHub

open Text

namespace CategorySet

/-- A category that is listed in a text. -/
structure Listed (list category : String) : Prop where
  found : ∃ piece,
    StandsBetween ',' list.toList piece ∧ Trims piece category.toList
  something : category ≠ ""

theorem mem_entries {list category : String} :
    category ∈ entries list ↔ Listed list category := by
  simp only [entries, List.mem_filterMap, List.mem_map]
  constructor
  · rintro ⟨_, ⟨piece, found, rfl⟩, kept⟩
    split at kept
    · cases kept
    · next something =>
        cases kept
        refine ⟨⟨piece, mem_pieces.mp found, ?_⟩, ?_⟩
        · rw [String.toList_ofList]
          exact trims_trimChars piece
        · intro nothing
          simp_all
  · rintro ⟨⟨piece, found, trims⟩, something⟩
    have left : category.toList.isEmpty = false := by
      simpa using something
    refine ⟨category.toList, ⟨piece, mem_pieces.mpr found, ?_⟩, ?_⟩
    · exact trims.trimChars_eq
    · rw [left, String.ofList_toList]
      rfl

theorem accepts_extend
    (set : CategorySet) (categories : List String) (category : String) :
    (set.extend categories).accepts category = true ↔
      set.accepts category = true ∨ category ∈ categories := by
  induction categories generalizing set with
  | nil => simp [extend]
  | cons first rest inductionHypothesis =>
      have split := inductionHypothesis (set.enable first)
      rw [accepts_enable, Bool.or_eq_true, beq_iff_eq, or_assoc] at split
      rw [List.mem_cons]
      exact split

theorem accepts_parse {list category : String} :
    (parse list).accepts category = true ↔ Listed list category := by
  have fresh : empty.accepts category = false := rfl
  rw [parse, ofList, accepts_extend, fresh, mem_entries]
  simp

/-- A variable counts if its value is the UTF-8 form of a text. -/
theorem accepts_ofVariable {value : Option Bytes} {category : String} :
    (ofVariable value).accepts category = true ↔
      ∃ list, value = some (bytes list) ∧ Listed list category := by
  rw [ofVariable]
  constructor
  · intro accepted
    split at accepted
    · next list read =>
        obtain ⟨input, rfl, isText⟩ := Option.bind_eq_some_iff.mp read
        refine ⟨list, ?_, accepts_parse.mp accepted⟩
        rw [decode?_eq_some.mp isText]
    · cases accepted
  · rintro ⟨list, rfl, listed⟩
    have read : decode? (bytes list) = some list := decode?_eq_some.mpr rfl
    rw [Option.bind_some, read]
    exact accepts_parse.mpr listed

end CategorySet

end SignalHub
