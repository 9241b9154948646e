import Mathlib.Algebra.Ring.Nat
import Mathlib.Data.List.Forall2
import Mathlib.Data.List.GetD
import Mathlib.Order.Bounds.Basic
import SignalHub.Proofs.Text.Pieces
import SignalHub.Proofs.Text.Width
import SignalHub.Text.Grid

/-!
# Grids are rectangles

The width of a column is the greatest of the widths of the lines that stand in
it.  If every row has the same number of cells, then every line of the drawing
takes the same number of columns, whatever is written in the cells.
-/

namespace SignalHub.Text

theorem isGreatest_foldl_max
    {sizes : List Nat}
    (nonempty : sizes ≠ []) :
    IsGreatest {size | size ∈ sizes} (sizes.foldl max 0) := by
  cases sizes with
  | nil => exact absurd rfl nonempty
  | cons first rest =>
      have found : (first :: rest).max? = some (rest.foldl max first) :=
        List.max?_cons'
      rw [List.foldl_cons, Nat.zero_max]
      exact List.max?_eq_some_iff.mp found

theorem eq_or_mem_of_mem_intercalate
    {Item : Type} {between item : Item} {parts : List (List Item)}
    (found : item ∈ [between].intercalate parts) :
    item = between ∨ ∃ part ∈ parts, item ∈ part := by
  induction parts with
  | nil => simp at found
  | cons first rest inductionHypothesis =>
      cases rest with
      | nil =>
          rw [List.intercalate_singleton] at found
          exact .inr ⟨first, List.mem_cons_self, found⟩
      | cons second others =>
          rw [List.intercalate_cons_cons, List.mem_append, List.mem_append,
            List.mem_singleton] at found
          rcases found with (inFirst | same) | later
          · exact .inr ⟨first, List.mem_cons_self, inFirst⟩
          · exact .inl same
          · rcases inductionHypothesis later with same | ⟨part, member, inPart⟩
            · exact .inl same
            · exact .inr ⟨part, List.mem_cons_of_mem first member, inPart⟩

namespace Grid

/-! ## Columns -/

theorem isGreatest_cellWidth (cell : List Char) :
    IsGreatest {size | ∃ line ∈ cellLines cell, width line = size}
      (cellWidth cell) := by
  have nonempty : (cellLines cell).map width ≠ [] := by
    rw [Ne, List.map_eq_nil_iff]
    exact pieces_ne_nil '\n' cell
  simpa only [cellWidth, List.mem_map] using isGreatest_foldl_max nonempty

theorem getD_widest (left right : List Nat) (index : Nat) :
    (widest left right).getD index 0 =
      max (left.getD index 0) (right.getD index 0) := by
  fun_induction widest left right generalizing index with
  | case1 first left second right inductionHypothesis =>
      cases index with
      | zero => rfl
      | succ index => simpa using inductionHypothesis index
  | case2 right => simp
  | case3 left => simp

theorem length_widest (left right : List Nat) :
    (widest left right).length = max left.length right.length := by
  fun_induction widest left right with
  | case1 first left second right inductionHypothesis =>
      simp only [List.length_cons, inductionHypothesis]
      omega
  | case2 right => simp
  | case3 left => simp

theorem getD_foldl_widest
    (rows : List (List Nat)) (start : List Nat) (index : Nat) :
    (rows.foldl widest start).getD index 0 =
      (rows.map fun row => row.getD index 0).foldl max
        (start.getD index 0) := by
  induction rows generalizing start with
  | nil => rfl
  | cons row rest inductionHypothesis =>
      rw [List.foldl_cons, inductionHypothesis, getD_widest, List.map_cons,
        List.foldl_cons]

theorem length_foldl_widest (rows : List (List Nat)) (start : List Nat) :
    (rows.foldl widest start).length =
      (rows.map List.length).foldl max start.length := by
  induction rows generalizing start with
  | nil => rfl
  | cons row rest inductionHypothesis =>
      rw [List.foldl_cons, inductionHypothesis, length_widest, List.map_cons,
        List.foldl_cons]

variable (grid : Grid)

/-- The cells that stand in one column. -/
def column (index : Nat) : List (List Char) :=
  (grid.header :: grid.rows).map fun row => row.getD index []

theorem getD_widths (index : Nat) :
    grid.widths.getD index 0 =
      ((grid.column index).map cellWidth).foldl max 0 := by
  have cells : ∀ row : List (List Char),
      (row.map cellWidth).getD index 0 = cellWidth (row.getD index []) := by
    intro row
    exact List.getD_map row [] cellWidth
  rw [widths, getD_foldl_widest, List.map_map, column, List.map_map]
  simp only [Function.comp_def, cells, List.getD_nil]

/-- A column is as wide as its widest line. -/
theorem isGreatest_widths (index : Nat) :
    IsGreatest
      {size | ∃ cell ∈ grid.column index,
        ∃ line ∈ cellLines cell, width line = size}
      (grid.widths.getD index 0) := by
  have nonempty : (grid.column index).map cellWidth ≠ [] := by simp [column]
  obtain ⟨attained, bound⟩ := isGreatest_foldl_max nonempty
  rw [getD_widths]
  constructor
  · obtain ⟨cell, member, widestCell⟩ := List.mem_map.mp attained
    obtain ⟨line, inCell, widestLine⟩ := (isGreatest_cellWidth cell).1
    exact ⟨cell, member, line, inCell, widestLine.trans widestCell⟩
  · rintro size ⟨cell, member, line, inCell, rfl⟩
    have within : width line ≤ cellWidth cell :=
      (isGreatest_cellWidth cell).2 ⟨line, inCell, rfl⟩
    exact within.trans (bound (List.mem_map_of_mem member))

variable {grid} {count index : Nat} {columns : List Nat}
  {row : List (List Char)} {line : List Char}

/-- Every row has as many cells as there are columns. -/
def Regular (grid : Grid) (count : Nat) : Prop :=
  ∀ row ∈ grid.header :: grid.rows, row.length = count

theorem length_widths (regular : grid.Regular count) :
    grid.widths.length = count := by
  let lengths := (grid.header :: grid.rows).map List.length
  have nonempty : lengths ≠ [] := List.cons_ne_nil _ _
  have total : grid.widths.length = lengths.foldl max 0 := by
    rw [widths, length_foldl_widest, List.map_map]
    simp only [Function.comp_def, List.length_map, lengths, List.length_nil]
  obtain ⟨row, member, same⟩ :=
    List.mem_map.mp (isGreatest_foldl_max nonempty).1
  rw [total, ← same]
  exact regular row member

/-- The cells of a row are no wider than their columns. -/
def Fits (columns : List Nat) (row : List (List Char)) : Prop :=
  List.Forall₂ (fun size cell => cellWidth cell ≤ size) columns row

theorem fits_widths
    (regular : grid.Regular count)
    (member : row ∈ grid.header :: grid.rows) :
    Fits grid.widths row := by
  rw [Fits, List.forall₂_iff_get]
  refine ⟨(length_widths regular).trans (regular row member).symm, ?_⟩
  intro index inColumns inRow
  obtain ⟨line, inCell, widestLine⟩ := (isGreatest_cellWidth row[index]).1
  have inColumn : row[index] ∈ grid.column index := by
    have here : row.getD index [] = row[index] :=
      List.getD_eq_getElem row [] inRow
    exact here ▸ List.mem_map_of_mem member
  have bound :=
    (grid.isGreatest_widths index).2 ⟨_, inColumn, line, inCell, rfl⟩
  rw [List.getD_eq_getElem _ _ inColumns, widestLine] at bound
  exact bound

/-! ## Lines -/

/-- What a line takes: its columns with a blank on either side, a border between
any two of them, and one at either end. -/
def breadth (columns : List Nat) : Nat :=
  columns.sum + 2 * columns.length + (columns.length - 1) + 2

theorem breadth_cons_cons (first second : Nat) (rest : List Nat) :
    breadth (first :: second :: rest) =
      first + 3 + breadth (second :: rest) := by
  simp only [breadth, List.sum_cons, List.length_cons]
  omega

/-- A line of a cell with a blank on either side. -/
def Padded (size : Nat) (part : List Char) : Prop :=
  ∃ text, part = ' ' :: (text ++ [' ']) ∧ width text = size

/-- Widths add up across the blanks next to the borders. -/
theorem width_of_padded
    {parts : List (List Char)}
    (padded : List.Forall₂ Padded columns parts) :
    width ('|' :: (['|'].intercalate parts ++ ['|'])) = breadth columns := by
  induction padded with
  | nil => decide
  | @cons size part sizes parts here later inductionHypothesis =>
      obtain ⟨text, rfl, measured⟩ := here
      have bar : width ['|'] = 1 := by decide
      have opened : ∀ rest,
          width ('|' :: ' ' :: (text ++ ' ' :: rest)) =
            size + 3 + width rest := by
        intro rest
        rw [show '|' :: ' ' :: (text ++ ' ' :: rest) =
            ['|'] ++ ' ' :: (text ++ ' ' :: rest) from rfl,
          width_append_blank, width_append_blank, bar, measured]
        omega
      cases later with
      | nil =>
          rw [List.intercalate_singleton]
          simpa [breadth, bar] using opened ['|']
      | @cons second _ others _ _ _ =>
          rw [List.intercalate_cons_cons, breadth_cons_cons,
            ← inductionHypothesis, ← opened]
          simp

theorem width_fill {size : Nat} (narrow : width line ≤ size) :
    width (fill size line) = size := by
  rw [fill, width_append_blanks]
  omega

theorem width_getD_cellLines (cell : List Char) (index : Nat) :
    width ((cellLines cell)[index]?.getD []) ≤ cellWidth cell := by
  cases found : (cellLines cell)[index]? with
  | none => exact Nat.zero_le _
  | some line =>
      have member : line ∈ cellLines cell := List.mem_of_getElem? found
      exact (isGreatest_cellWidth cell).2 ⟨line, member, rfl⟩

theorem width_rowLine (fits : Fits columns row) (index : Nat) :
    width (rowLine columns row index) = breadth columns := by
  rw [rowLine, List.append_assoc]
  apply width_of_padded
  induction fits with
  | nil => exact .nil
  | @cons size cell _ _ narrow _ inductionHypothesis =>
      refine .cons ⟨_, rfl, width_fill ?_⟩ inductionHypothesis
      exact (width_getD_cellLines cell index).trans narrow

variable {side cross stroke character : Char}

theorem mem_rule (member : character ∈ rule side cross stroke columns) :
    character = side ∨ character = cross ∨ character = stroke := by
  simp only [rule, List.mem_append, List.mem_singleton] at member
  rcases member with (rfl | inside) | rfl
  · exact .inl rfl
  · rcases eq_or_mem_of_mem_intercalate inside with
      same | ⟨part, found, drawn⟩
    · exact .inr (.inl same)
    · obtain ⟨size, _, rfl⟩ := List.mem_map.mp found
      exact .inr (.inr (List.eq_of_mem_replicate drawn))
  · exact .inl rfl

theorem length_rule (side cross stroke : Char) (columns : List Nat) :
    (rule side cross stroke columns).length = breadth columns := by
  induction columns with
  | nil => rfl
  | cons first rest inductionHypothesis =>
      cases rest with
      | nil => simp [rule, breadth]
      | cons second others =>
          rw [breadth_cons_cons, ← inductionHypothesis]
          simp only [rule, List.map_cons, List.intercalate_cons_cons,
            List.length_append, List.length_replicate, List.length_singleton]
          omega

theorem width_rule
    (printable : [side, cross, stroke].all isPrintable = true) :
    width (rule side cross stroke columns) = breadth columns := by
  rw [width_of_printable, length_rule]
  intro character member
  apply List.all_eq_true.mp printable
  simpa using mem_rule member

/-! ## The drawing -/

/-- The ruled lines of a drawing. -/
def ruled (columns : List Nat) : List (List Char) :=
  [outerRule columns, headerRule columns, innerRule columns]

theorem body_eq_intercalate
    (columns : List Nat)
    (rows : List (List (List Char))) :
    body columns rows =
      [innerRule columns].intercalate (rows.map (rowLines columns)) := by
  fun_induction body columns rows with
  | case1 => rfl
  | case2 row => simp
  | case3 row rest nonempty inductionHypothesis =>
      cases rest with
      | nil => exact absurd rfl nonempty
      | cons second others =>
          rw [inductionHypothesis]
          simp only [List.map_cons, List.intercalate_cons_cons]

theorem mem_drawing (member : line ∈ grid.drawing) :
    line ∈ ruled grid.widths ∨
      ∃ row ∈ grid.header :: grid.rows,
        ∃ index, rowLine grid.widths row index = line := by
  have ofRow : ∀ row ∈ grid.header :: grid.rows,
      line ∈ rowLines grid.widths row →
        ∃ row ∈ grid.header :: grid.rows,
          ∃ index, rowLine grid.widths row index = line := by
    intro row inGrid inRow
    obtain ⟨index, _, drawn⟩ := List.mem_map.mp inRow
    exact ⟨row, inGrid, index, drawn⟩
  simp only [drawing, body_eq_intercalate, List.mem_append, List.mem_singleton]
    at member
  rcases member with (((rfl | inHeader) | rfl) | inBody) | rfl
  · exact .inl List.mem_cons_self
  · exact .inr (ofRow grid.header List.mem_cons_self inHeader)
  · exact .inl (by simp [ruled])
  · rcases eq_or_mem_of_mem_intercalate inBody with
      same | ⟨lines, inRows, inLines⟩
    · exact .inl (by simp [ruled, same])
    · obtain ⟨row, inGrid, rfl⟩ := List.mem_map.mp inRows
      exact .inr (ofRow row (List.mem_cons_of_mem _ inGrid) inLines)
  · exact .inl List.mem_cons_self

/-- All lines of the drawing take the same columns. -/
theorem width_of_mem_drawing
    (regular : grid.Regular count)
    (member : line ∈ grid.drawing) :
    width line = breadth grid.widths := by
  rcases mem_drawing member with inRuled | ⟨row, inGrid, index, rfl⟩
  · simp only [ruled, List.mem_cons, List.not_mem_nil, or_false] at inRuled
    rcases inRuled with rfl | rfl | rfl <;> exact width_rule (by decide)
  · exact width_rowLine (fits_widths regular inGrid) index

/-- Two wide letters take four columns, and a line break at the end takes a
line. -/
example :
    drawing ⟨["A", "B"].map String.toList, [["x", "編訳\n"].map String.toList]⟩ =
      [ "+---+------+",
        "| A | B    |",
        "+==========+",
        "| x | 編訳 |",
        "|   |      |",
        "+---+------+" ].map String.toList := by
  decide +kernel

theorem newline_not_mem_fill
    {size : Nat}
    (free : '\n' ∉ line) : '\n' ∉ fill size line := by
  intro found
  rcases List.mem_append.mp found with here | padding
  · exact free here
  · exact absurd (List.eq_of_mem_replicate padding) (by decide)

theorem newline_not_mem_getD_cellLines (cell : List Char) (index : Nat) :
    '\n' ∉ (cellLines cell)[index]?.getD [] := by
  cases found : (cellLines cell)[index]? with
  | none => exact List.not_mem_nil
  | some line => exact not_mem_of_mem_pieces (List.mem_of_getElem? found)

theorem newline_not_mem_rowLine
    (columns : List Nat)
    (row : List (List Char))
    (index : Nat) : '\n' ∉ rowLine columns row index := by
  intro found
  simp only [rowLine, List.mem_append, List.mem_singleton] at found
  rcases found with (impossible | inside) | impossible
  · exact absurd impossible (by decide)
  · rcases eq_or_mem_of_mem_intercalate inside with
      same | ⟨part, member, inPart⟩
    · exact absurd same (by decide)
    · obtain ⟨place, shown⟩ := List.mem_iff_getElem?.mp member
      obtain ⟨size, cell, _, _, rfl⟩ := List.getElem?_zipWith_eq_some.mp shown
      have free : '\n' ∉ fill size ((cellLines cell)[index]?.getD []) :=
        newline_not_mem_fill (newline_not_mem_getD_cellLines cell index)
      simp [free] at inPart
  · exact absurd impossible (by decide)

/-- A line of the drawing is one line of the text. -/
theorem newline_not_mem_of_mem_drawing
    (member : line ∈ grid.drawing) : '\n' ∉ line := by
  have ruledFree : ∀ side cross stroke : Char,
      '\n' ∉ [side, cross, stroke] →
        '\n' ∉ rule side cross stroke grid.widths := by
    intro side cross stroke free found
    exact free (by simpa using mem_rule found)
  rcases mem_drawing member with inRuled | ⟨row, _, index, rfl⟩
  · simp only [ruled, List.mem_cons, List.not_mem_nil, or_false] at inRuled
    rcases inRuled with rfl | rfl | rfl <;> exact ruledFree _ _ _ (by decide)
  · exact newline_not_mem_rowLine grid.widths row index

end Grid

end SignalHub.Text
