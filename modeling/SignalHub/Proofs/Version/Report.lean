import SignalHub.Proofs.Text.Grid
import SignalHub.Proofs.Version.Description
import SignalHub.Version.Report

/-!
# The shape of a report

A report is read line by line.  Each component takes as many lines as its value
has, the label stands on the first of them, and nothing that a value says is lost
or moved to another line.  Both columns are aligned and no wider than their texts
need.
-/

namespace SignalHub

namespace Text

theorem Style.reopen_of_not_mem
    (style : Style) {text : List Char}
    (free : escape ∉ text) : style.reopen text = text := by
  fun_induction Style.reopen style text with
  | case1 rest inductionHypothesis => exact absurd List.mem_cons_self free
  | case2 character rest _ inductionHypothesis =>
      have freeBehind : escape ∉ rest :=
        fun later => free (List.mem_cons_of_mem character later)
      rw [inductionHypothesis freeBehind]
  | case3 => rfl

/-- A text on one line of a column, followed by nothing but blanks. -/
def Shows (size : Nat) (shown cell : List Char) : Prop :=
  ∃ gap, width shown + gap = size ∧ cell = shown ++ List.replicate gap ' '

theorem shows_fill
    {size : Nat} {shown : List Char}
    (narrow : width shown ≤ size) : Shows size shown (Grid.fill size shown) :=
  ⟨size - width shown, Nat.add_sub_of_le narrow, rfl⟩

end Text

namespace Build

open Text

/-- One line across two columns. -/
def Across (left right : Nat) (first second line : List Char) : Prop :=
  ∃ label value,
    Shows left first label ∧
      Shows right second value ∧
      line = "| ".toList ++ label ++ " | ".toList ++ value ++ " |".toList

/-- A line ruled across two columns: its ends, what crosses it, and what it is
drawn with. -/
def ruledAcross (left right : Nat) (side cross stroke : Char) : List Char :=
  [side] ++ List.replicate (left + 2) stroke ++ [cross] ++
    List.replicate (right + 2) stroke ++ [side]

/-- The lines of a value, an empty one after a line break at its end. -/
def valueLines (value : String) : List (List Char) :=
  value.toList.splitOn '\n'

/-- The lines that a component takes. -/
structure Occupies
    (left right : Nat) (component : String × String)
    (lines : List (List Char)) : Prop where
  height : lines.length = (valueLines component.2).length
  /-- Each line of the value has a line of its own, the first one beside the
  label. -/
  shown : ∀ index piece, (valueLines component.2)[index]? = some piece →
    ∃ line, lines[index]? = some line ∧
      Across left right (if index = 0 then component.1.toList else []) piece
        line

/-- How wide the lines of some texts are. -/
def widthsOf (texts : List String) : Set Nat :=
  {size | ∃ text ∈ texts, ∃ piece ∈ valueLines text, width piece = size}

/-- The components of a build, in their order. -/
def listed (build : Build) : List (String × String) :=
  [("VM", build.version ++ "-" ++ build.buildName),
    ("Variant",
      build.variant.name ++
        (if build.objectMemory = "" then "" else " " ++ build.objectMemory) ++
        (if build.timerHeartbeat then " ITHB" else "") ++ " VM"),
    ("Compiler", build.compiler),
    ("Interpreter", build.interpreter),
    ("Revision", build.source)]

/-- What stands above the table. -/
def headline (build : Build) : String :=
  build.dialect ++ " VM " ++ build.version ++ " built on " ++ build.timestamp

/-- How a build is reported, with two columns of these sizes and a table of these
lines. -/
structure Reported
    (build : Build) (left right : Nat) (table : List (List Char)) : Prop where
  /-- No column is wider than its widest line. -/
  labels : IsGreatest (widthsOf ("Component" :: build.listed.map Prod.fst)) left
  values : IsGreatest (widthsOf ("Version" :: build.listed.map Prod.snd)) right
  /-- The header, and the components with one ruled line between any two. -/
  rows : ∃ header blocks,
    Across left right "Component".toList "Version".toList header ∧
      List.Forall₂ (Occupies left right) build.listed blocks ∧
      table =
        [ruledAcross left right '+' '+' '-', header,
            ruledAcross left right '+' '=' '='] ++
          [ruledAcross left right '|' '+' '-'].intercalate blocks ++
          [ruledAcross left right '+' '+' '-']
  aligned : ∀ line ∈ table, '\n' ∉ line ∧ width line = left + right + 7
  plain :
    build.report false =
      build.headline ++ "\n\n" ++ String.ofList (['\n'].intercalate table)
  /-- Only the headline is painted. -/
  painted :
    (∀ text ∈ [build.dialect, build.version, build.timestamp],
        escape ∉ text.toList) →
      build.report true =
        "\x1B[1;32m" ++ build.headline ++ "\x1B[0m" ++ "\n\n" ++
          String.ofList (['\n'].intercalate table)

/-! ## Rows of two cells -/

section Rows

variable {left right : Nat} {label value : List Char}

theorem rowLine_pair (index : Nat) :
    Grid.rowLine [left, right] [label, value] index =
      "| ".toList ++
        Grid.fill left ((Grid.cellLines label)[index]?.getD []) ++
        " | ".toList ++
        Grid.fill right ((Grid.cellLines value)[index]?.getD []) ++
        " |".toList := by
  simp [Grid.rowLine]

theorem across_rowLine
    (fits : Grid.Fits [left, right] [label, value])
    (index : Nat) :
    Across left right ((Grid.cellLines label)[index]?.getD [])
      ((Grid.cellLines value)[index]?.getD [])
      (Grid.rowLine [left, right] [label, value] index) := by
  obtain ⟨labelFits, valueFits⟩ :
      Grid.cellWidth label ≤ left ∧ Grid.cellWidth value ≤ right := by
    simpa [Grid.Fits] using fits
  refine ⟨_, _, shows_fill ?_, shows_fill ?_, rowLine_pair index⟩
  · exact (Grid.width_getD_cellLines label index).trans labelFits
  · exact (Grid.width_getD_cellLines value index).trans valueFits

theorem cellLines_label (single : '\n' ∉ label) (index : Nat) :
    (Grid.cellLines label)[index]?.getD [] =
      if index = 0 then label else [] := by
  rw [Grid.cellLines, pieces_of_not_mem single]
  cases index <;> rfl

theorem height_pair (single : '\n' ∉ label) :
    Grid.height [label, value] = (Grid.cellLines value).length := by
  have some : 0 < (Grid.cellLines value).length :=
    List.length_pos_of_ne_nil (pieces_ne_nil '\n' value)
  have one : (Grid.cellLines label).length = 1 := by
    rw [Grid.cellLines, pieces_of_not_mem single, List.length_singleton]
  simp only [Grid.height, List.map_cons, List.map_nil, List.foldl_cons,
    List.foldl_nil, one]
  omega

theorem rule_pair (side cross stroke : Char) :
    Grid.rule side cross stroke [left, right] =
      ruledAcross left right side cross stroke := by
  simp [Grid.rule, ruledAcross]

end Rows

theorem occupies_rowLines
    {left right : Nat} {component : String × String}
    (single : '\n' ∉ component.1.toList)
    (fits :
      Grid.Fits [left, right] [component.1.toList, component.2.toList]) :
    Occupies left right component
      (Grid.rowLines [left, right]
        [component.1.toList, component.2.toList]) := by
  have lines : Grid.cellLines component.2.toList = valueLines component.2 :=
    pieces_eq_splitOn '\n' component.2.toList
  constructor
  · rw [Grid.rowLines, List.length_map, List.length_range, height_pair single,
      lines]
  · intro index piece found
    have within : index < Grid.height
        [component.1.toList, component.2.toList] := by
      rw [height_pair single, lines]
      exact (List.getElem?_eq_some_iff.mp found).1
    have across := across_rowLine fits index
    rw [cellLines_label single, lines, found] at across
    refine ⟨_, ?_, across⟩
    rw [Grid.rowLines, List.getElem?_map, List.getElem?_range within,
      Option.map_some]

/-! ## The grid of a build -/

variable (build : Build)

theorem components_eq : build.components = build.listed := by
  simp only [components, listed, shortVersion, flavour_eq]

theorem regular_grid : build.grid.Regular 2 := by
  intro row member
  rcases List.mem_cons.mp member with rfl | inRows
  · rfl
  · obtain ⟨component, _, rfl⟩ := List.mem_map.mp inRows
    rfl

theorem widths_grid :
    build.grid.widths =
      [build.grid.widths.getD 0 0, build.grid.widths.getD 1 0] := by
  obtain ⟨left, right, both⟩ :=
    List.length_eq_two.mp (Grid.length_widths build.regular_grid)
  rw [both]
  rfl

theorem isGreatest_column
    {index : Nat} {texts : List String}
    (standing : build.grid.column index = texts.map String.toList) :
    IsGreatest (widthsOf texts) (build.grid.widths.getD index 0) := by
  have widest := build.grid.isGreatest_widths index
  rw [standing] at widest
  simpa only [widthsOf, valueLines, List.mem_map, exists_exists_and_eq_and,
    Grid.cellLines, pieces_eq_splitOn] using widest

theorem newline_not_mem_label :
    ∀ component ∈ build.listed, '\n' ∉ component.1.toList := by
  have labels :
      ∀ label ∈ ["VM", "Variant", "Compiler", "Interpreter", "Revision"],
        '\n' ∉ label.toList := by
    decide
  intro component member
  exact labels component.1 (List.mem_map_of_mem (f := Prod.fst) member)

section Sized

variable {build} {left right : Nat}
  (widths : build.grid.widths = [left, right])
include widths

theorem fits_row
    {row : List (List Char)}
    (member : row ∈ build.grid.header :: build.grid.rows) :
    Grid.Fits [left, right] row :=
  widths ▸ Grid.fits_widths build.regular_grid member

theorem drawing_grid :
    build.grid.drawing =
      [ruledAcross left right '+' '+' '-',
          Grid.rowLine [left, right] build.grid.header 0,
          ruledAcross left right '+' '=' '='] ++
        [ruledAcross left right '|' '+' '-'].intercalate
          (build.grid.rows.map (Grid.rowLines [left, right])) ++
        [ruledAcross left right '+' '+' '-'] := by
  have heading : Grid.rowLines [left, right] build.grid.header =
      [Grid.rowLine [left, right] build.grid.header 0] := rfl
  simp only [Grid.drawing, widths, heading, Grid.body_eq_intercalate,
    Grid.outerRule, Grid.headerRule, Grid.innerRule, rule_pair,
    List.cons_append, List.nil_append]

theorem rows_grid :
    ∃ header blocks,
      Across left right "Component".toList "Version".toList header ∧
        List.Forall₂ (Occupies left right) build.listed blocks ∧
        build.grid.drawing =
          [ruledAcross left right '+' '+' '-', header,
              ruledAcross left right '+' '=' '='] ++
            [ruledAcross left right '|' '+' '-'].intercalate blocks ++
            [ruledAcross left right '+' '+' '-'] := by
  refine ⟨_, _, ?_, ?_, drawing_grid widths⟩
  · exact across_rowLine (fits_row widths List.mem_cons_self) 0
  · rw [grid, components_eq, List.map_map, List.forall₂_map_right_iff,
      List.forall₂_same]
    intro component member
    apply occupies_rowLines (build.newline_not_mem_label component member)
    apply fits_row widths
    rw [grid, components_eq]
    exact List.mem_cons_of_mem _ (List.mem_map_of_mem member)

end Sized

theorem report_of_plain
    (free : ∀ text ∈ [build.dialect, build.version, build.timestamp],
      escape ∉ text.toList) :
    build.report true =
      "\x1B[1;32m" ++ build.headline ++ "\x1B[0m" ++ "\n\n" ++
        build.grid.render := by
  have unescaped : escape ∉ build.introduction.toList := by
    simp only [List.forall_mem_cons] at free
    obtain ⟨dialect, version, timestamp, _⟩ := free
    simp only [introduction, String.toList_append, List.mem_append, dialect,
      version, timestamp, false_or, or_false]
    decide
  rw [report, Style.apply, if_pos rfl, Style.reopen_of_not_mem _ unescaped]
  apply String.toList_injective
  simp [Style.start, Style.heading, reset, escape, headline, introduction]

/-- Every build is reported as a table of its components, aligned whatever its
texts are, and painting touches nothing but the headline. -/
theorem reports_are_aligned_tables (build : Build) :
    ∃ left right table, build.Reported left right table := by
  have widths := build.widths_grid
  refine ⟨_, _, build.grid.drawing, ?_, ?_, rows_grid widths, ?_, rfl, ?_⟩
  · apply isGreatest_column
    simp [Grid.column, grid, components_eq]
  · apply isGreatest_column
    simp [Grid.column, grid, components_eq]
  · intro line member
    refine ⟨Grid.newline_not_mem_of_mem_drawing member, ?_⟩
    rw [Grid.width_of_mem_drawing build.regular_grid member, widths]
    simp [Grid.breadth]
  · exact build.report_of_plain

/-- A compiler that is told in wide letters, with a line break at the end. -/
theorem reports_are_aligned_tables_wide :
    ∃ left right table,
      Reported { current "編訳\n" "today" with version := "7" }
          left right table ∧
        valueLines "編訳\n" = ["編訳".toList, []] ∧
        report { current "編訳\n" "today" with version := "7" } true =
          "\x1B[1;32m" ++ "Pharo VM 7 built on today" ++ "\x1B[0m" ++ "\n\n" ++
            String.ofList (['\n'].intercalate table) := by
  let build : Build := { current "編訳\n" "today" with version := "7" }
  have free : ∀ text ∈ [build.dialect, build.version, build.timestamp],
      escape ∉ text.toList := by
    decide
  obtain ⟨left, right, table, reported⟩ := reports_are_aligned_tables build
  refine ⟨left, right, table, reported, ?_, ?_⟩
  · decide
  · exact reported.painted free

end Build

end SignalHub
