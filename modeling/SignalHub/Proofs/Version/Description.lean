import SignalHub.Proofs.Bounded
import SignalHub.Proofs.Text.Terminated
import SignalHub.Session

/-!
# Descriptions of a build

A description is put together piece by piece in a bounded buffer.  It is what
cutting the whole text of its template gives, whichever piece reaches the bound,
so only the beginning of that text counts.
-/

namespace SignalHub

namespace Text

/-! ## Only the beginning counts -/

section Beginning

variable (input : Bytes) {limit offset : Nat}

/-- Whether a text may be cut somewhere is told by the byte that would come
next. -/
theorem isBoundary_take (within : offset ≤ limit) :
    isBoundary (input.take (limit + 1)) offset = isBoundary input offset := by
  have next : (input.take (limit + 1))[offset]? = input[offset]? :=
    List.getElem?_take_of_lt (Nat.lt_succ_of_le within)
  rw [isBoundary, isBoundary, next]
  cases found : input[offset]? with
  | some byte => rfl
  | none =>
      have beyond : input.length ≤ offset := List.getElem?_eq_none_iff.mp found
      have whole : input.take (limit + 1) = input :=
        List.take_of_length_le (by omega)
      rw [whole]

theorem floorBoundary_take (within : offset ≤ limit) :
    floorBoundary (input.take (limit + 1)) offset =
      floorBoundary input offset := by
  induction offset with
  | zero => rfl
  | succ offset inductionHypothesis =>
      rw [floorBoundary, floorBoundary, isBoundary_take input within,
        inductionHypothesis (Nat.le_of_succ_le within)]

end Beginning

theorem bytes_fittingText (limit : Nat) (text : String) :
    bytes (fittingText limit text) =
      (bytes text).take (floorBoundary (bytes text) limit) := by
  rw [bytes, fittingText, String.toList_ofList, bytes,
    take_floorBoundary_encode]

/-- Texts that agree up to the byte after the limit are cut alike. -/
theorem fittingText_eq_of_take
    {limit : Nat} {left right : String}
    (agree :
      (bytes left).take (limit + 1) = (bytes right).take (limit + 1)) :
    fittingText limit left = fittingText limit right := by
  have boundary :
      floorBoundary (bytes left) limit = floorBoundary (bytes right) limit := by
    rw [← floorBoundary_take (bytes left) (Nat.le_refl limit), agree,
      floorBoundary_take (bytes right) (Nat.le_refl limit)]
  have within : floorBoundary (bytes right) limit ≤ limit + 1 :=
    Nat.le_succ_of_le (floorBoundary_le (bytes right) limit)
  have beginning :=
    congrArg (List.take (floorBoundary (bytes right) limit)) agree
  rw [List.take_take, List.take_take, Nat.min_eq_left within] at beginning
  apply bytes_injective
  rw [bytes_fittingText, bytes_fittingText, boundary, beginning]

/-- What is cut begins with every beginning of the text that fits, and is itself
part of every beginning that does not. -/
theorem LongestFitting.compare
    {limit : Nat} {text cut other : String}
    (longest : LongestFitting limit text cut)
    (beginning : other.toList <+: text.toList) :
    ((bytes other).length ≤ limit → other.toList <+: cut.toList) ∧
      (limit < (bytes other).length → cut.toList <+: other.toList) := by
  refine ⟨longest.longest other beginning, ?_⟩
  intro exceeds
  rcases List.prefix_or_prefix_of_prefix longest.beginning beginning with
    within | ⟨rest, split⟩
  · exact within
  · have fits := longest.fits
    rw [bytes, ← split, encode_append, List.length_append] at fits
    exact absurd exceeds (Nat.not_lt.mpr (Nat.le_of_add_right_le fits))

end Text

open Text

namespace Build

/-! ## The template -/

/-- What both forms tell of the machine itself. -/
def identity (build : Build) : String :=
  build.version ++ "-" ++ build.buildName ++
    (if build.sharedMemory then " XShm" else "") ++ " " ++ build.compiler ++
    " [" ++ build.variant.name ++
    (if build.objectMemory = "" then "" else " " ++ build.objectMemory) ++
    (if build.timerHeartbeat then " ITHB" else "") ++ " VM]\n"

/-- The whole text of a description. -/
def template (build : Build) : Bool → String
  | true =>
      build.dialect ++ "VM version:" ++ build.identity ++
        "Built from: " ++ build.interpreter ++
        "\n With:" ++ build.extended ++
        "\n Revision: " ++ build.source
  | false =>
      build.identity ++ build.interpreter ++ "\n" ++ build.extended ++ "\n" ++
        build.source

theorem flavour_eq (build : Build) :
    build.flavour =
      build.variant.name ++
        (if build.objectMemory = "" then "" else " " ++ build.objectMemory) ++
        (if build.timerHeartbeat then " ITHB" else "") := by
  simp only [flavour, String.isEmpty_iff]

theorem fullDescription_eq (build : Build) (verbose : Bool) :
    build.fullDescription verbose = build.template verbose := by
  apply String.toList_injective
  cases verbose <;>
    simp only [fullDescription, fragments, template, identity, flavour_eq,
      sharedMemoryMark, String.toList_join, String.toList_append,
      List.append_assoc, List.flatMap_cons, List.flatMap_nil, List.append_nil,
      List.cons_append, List.nil_append, Bool.false_eq_true, if_true, if_false]

theorem describe_eq (build : Build) (verbose : Bool) :
    build.describe verbose =
      fittingText (descriptionSize - 1) (build.template verbose) := by
  rw [describe, Formatter.bounded_ofPieces,
    Formatter.bounded_eq_fittingText, Formatter.offeredBounded_text,
    ← fullDescription_eq, fullDescription]

theorem shortVersion_prefix (build : Build) :
    build.shortVersion.toList <+: (build.template false).toList := by
  simp only [template, identity, shortVersion, String.toList_append,
    List.append_assoc]
  simp

/-- How a build is described. -/
structure Described (build : Build) : Prop where
  /-- Each form is its template, cut at the last character that fits. -/
  cut : ∀ verbose,
    LongestFitting 4095 (build.template verbose) (build.describe verbose)
  /-- The short form begins with the short version, or with what fits of it. -/
  short :
    ((bytes build.shortVersion).length ≤ 4095 →
        build.shortVersion.toList <+: (build.describe false).toList) ∧
      (4095 < (bytes build.shortVersion).length →
        (build.describe false).toList <+: build.shortVersion.toList)
  /-- The foreign side gets a text that it can read to its end, with all the bytes
  that are not zero. -/
  foreign : ∀ (session : Session) (flag : Int), session.build = build →
    ∃ text,
      session.perform (.foreign (.versionText flag)) =
          (session, [], .text text) ∧
        bytes text =
          (bytes (build.describe (flag != 0))).filter (· != 0) ∧
        Crosses text

/-- Every build is described by its templates, each cut at the last character that
fits, and whatever differs only after the bytes that can be looked at is described
alike. -/
theorem descriptions_cut_the_template :
    (∀ build : Build, build.Described) ∧
      ∀ (first second : Build) (verboseFirst verboseSecond : Bool),
        (bytes (first.template verboseFirst)).take 4096 =
            (bytes (second.template verboseSecond)).take 4096 →
          first.describe verboseFirst = second.describe verboseSecond := by
  constructor
  · intro build
    have cut : ∀ verbose,
        LongestFitting 4095 (build.template verbose)
          (build.describe verbose) := by
      intro verbose
      rw [describe_eq]
      exact longestFitting_fittingText 4095 (build.template verbose)
    refine ⟨cut, (cut false).compare build.shortVersion_prefix, ?_⟩
    rintro session flag rfl
    exact
      ⟨Foreign.versionText session.build flag, rfl,
        bytes_outgoing _, crosses_outgoing _⟩
  · intro first second verboseFirst verboseSecond agree
    rw [describe_eq, describe_eq]
    exact fittingText_eq_of_take agree

/-- A version that fills the bound hides what the build was made from. -/
theorem descriptions_cut_the_template_long :
    ∃ first second : Build,
      first.source ≠ second.source ∧
        4095 < (bytes first.shortVersion).length ∧
        (first.describe false).toList <+: first.shortVersion.toList ∧
        first.describe false = second.describe false := by
  let version := String.ofList (List.replicate 4096 'v')
  let first : Build := { current "" "" with version }
  let second : Build := { current "" "" with version, source := "elsewhere" }
  have length : (bytes version).length = 4096 := by
    rw [bytes, String.toList_ofList, length_encode_of_ascii,
      List.length_replicate]
    intro character member
    rw [List.eq_of_mem_replicate member]
    decide
  have beginning : ∀ build : Build, build.version = version →
      (bytes (build.template false)).take 4096 = bytes version := by
    rintro build same
    obtain ⟨rest, split⟩ := build.shortVersion_prefix
    rw [shortVersion, String.toList_append, String.toList_append, same] at split
    rw [bytes, ← split, List.append_assoc, List.append_assoc, encode_append]
    exact List.take_left' length
  have exceeds : 4095 < (bytes first.shortVersion).length := by
    rw [shortVersion, bytes, String.toList_append, String.toList_append,
      List.append_assoc, encode_append, List.length_append]
    have filled : 4095 < (bytes first.version).length :=
      length.symm ▸ Nat.lt_succ_self 4095
    exact Nat.lt_of_lt_of_le filled (Nat.le_add_right _ _)
  obtain ⟨described, alike⟩ := descriptions_cut_the_template
  refine ⟨first, second, by decide, exceeds, ?_, ?_⟩
  · exact (described first).short.2 exceeds
  · apply alike first second false false
    rw [beginning first rfl, beginning second rfl]

end Build

end SignalHub
