import Mathlib.Data.List.Forall2
import Mathlib.Data.List.Induction
import Mathlib.Order.MinMax
import Chargeback.Display.Table
import Chargeback.Proofs.Text.Width

/-!
# The lines of a table

A drawing of a table has lines of one width between its borders, and in the block of lines of a row
every line of a cell stands in the column of the cell (`Drawing.Shows`). Lines are of one width
because no text reaches into the next one when texts are put together: what follows a text in a
table begins with a blank or a stroke. Every table is such a drawing of its header and its rows
(`exists_drawing`).
-/

namespace Chargeback.Display

/-! ## The widths of columns -/

/-- No line of a cell is wider than the column of the cell. -/
def Fits (widths : List Nat) (row : List Cell) : Prop :=
  List.Forall₂ (fun width cell => ∀ line ∈ cell, displayWidth line ≤ width) widths row

theorem displayWidth_le_width {cell : Cell} {line : String} (h : line ∈ cell) :
    displayWidth line ≤ cell.width := by
  rw [Cell.width, List.foldl_max]
  exact le_max_of_le_right (List.le_max?_getD_of_mem (List.mem_map_of_mem h))

section Widening

variable {widths : List Nat} {row other : List Cell}

theorem fits_widened (h : row.length = widths.length) :
    Fits (widths.zipWith max (row.map Cell.width)) row := by
  induction row generalizing widths with
  | nil =>
    rw [List.length_nil, eq_comm, List.length_eq_zero_iff] at h
    exact h ▸ .nil
  | cons cell row ih =>
    cases widths with
    | nil => cases h
    | cons width widths =>
      exact .cons (fun line hline => le_max_of_le_right (displayWidth_le_width hline))
        (ih (Nat.succ.inj h))

theorem Fits.widen (h : Fits widths row) (hother : other.length = widths.length) :
    Fits (widths.zipWith max (other.map Cell.width)) row := by
  induction h generalizing other with
  | nil => exact .nil
  | cons hcell hrow ih =>
    cases other with
    | nil => cases hother
    | cons cell' other =>
      exact .cons (fun line hline => le_max_of_le_left (hcell line hline))
        (ih (Nat.succ.inj hother))

end Widening

theorem columnWidths_append_singleton (columns : Nat) (rows : List (List Cell)) (row : List Cell) :
    columnWidths columns (rows ++ [row]) =
      (columnWidths columns rows).zipWith max (row.map Cell.width) :=
  List.foldl_append

section Columns

variable {columns : Nat} {rows : List (List Cell)}

theorem length_columnWidths (h : ∀ row ∈ rows, row.length = columns) :
    (columnWidths columns rows).length = columns := by
  induction rows using List.reverseRecOn with
  | nil => simp [columnWidths]
  | append_singleton rows row ih =>
    obtain ⟨hrows, hrow⟩ := List.forall_mem_append.mp h
    rw [columnWidths_append_singleton, List.length_zipWith, ih hrows, List.length_map,
      hrow row List.mem_cons_self, Nat.min_self]

/-- **Columns are wide enough** for all rows of so many cells. -/
theorem fits_columnWidths (h : ∀ row ∈ rows, row.length = columns) :
    ∀ row ∈ rows, Fits (columnWidths columns rows) row := by
  induction rows using List.reverseRecOn with
  | nil => exact fun _ hrow => nomatch hrow
  | append_singleton rows last ih =>
    obtain ⟨hrows, hlast⟩ := List.forall_mem_append.mp h
    have hwide : last.length = (columnWidths columns rows).length := by
      rw [length_columnWidths hrows, hlast last List.mem_cons_self]
    rw [columnWidths_append_singleton]
    refine List.forall_mem_append.mpr ⟨fun row hrow => (ih hrows row hrow).widen hwide, ?_⟩
    exact List.forall_mem_singleton.mpr (fits_widened hwide)

end Columns

/-! ## Lines -/

/-- A line with bars and, between them, a text in every column: a blank, the text filled up to the
width of the column, and a blank. -/
inductive Barred : List Nat → List String → String → Prop
  | nil : Barred [] [] "│"
  | cons {width blanks : Nat} {widths : List Nat} {text line : String} {texts : List String}
      (htext : displayWidth text + blanks = width) (hline : Barred widths texts line) :
      Barred (width :: widths) (text :: texts)
        ("│" ++ " " ++ text ++ repeated blanks ' ' ++ " " ++ line)

/-- The width of a line of a table with columns of given widths. -/
def lineWidth : List Nat → Nat
  | [] => 1
  | width :: widths => width + 3 + lineWidth widths

theorem spans_repeated {c : Char} (h : measure c .plain = (1, .plain)) (n : Nat) :
    Spans n (repeated n c) := by
  rw [Spans, repeated, String.toList_ofList, columns_replicate h]

section Lines

variable {widths : List Nat} {texts : List String} {line : String}

theorem displayWidth_barred (h : Barred widths texts line) :
    displayWidth line = lineWidth widths := by
  induction h with
  | nil => decide +kernel
  | @cons width blanks widths text line texts htext _ ih =>
    let rest := repeated blanks ' ' ++ (" " ++ line)
    have hbar : displayWidth "│" = 1 := by decide +kernel
    have hrest : Spans (blanks + (1 + lineWidth widths)) rest :=
      (spans_repeated (measure_space _) blanks).append (ih ▸ spans_space line)
    have hsplit : "│" ++ " " ++ text ++ repeated blanks ' ' ++ " " ++ line =
        "│" ++ (" " ++ (text ++ rest)) := by
      simp only [rest, String.append_assoc]
    rw [hsplit, displayWidth_append _ (spans_space _), displayWidth_append text hrest, hbar,
      lineWidth]
    omega

/-- Texts that fit into their columns, between bars, make a line. -/
theorem barred_intercalate (hwidths : widths ≠ [])
    (h : List.Forall₂ (fun width text => displayWidth text ≤ width) widths texts) :
    Barred widths texts
      ("│" ++ "│".intercalate (widths.zipWith (fun w t => " " ++ padded w t ++ " ") texts) ++
        "│") := by
  have hfill {width : Nat} {text : String} (htext : displayWidth text ≤ width) :
      displayWidth text + (width - displayWidth text) = width := Nat.add_sub_cancel' htext
  induction h with
  | nil => exact absurd rfl hwidths
  | @cons width text widths texts htext hrest ih =>
    cases hrest with
    | nil =>
      have := Barred.cons (hfill htext) .nil
      simpa only [List.zipWith_cons_cons, List.zipWith_nil_left, String.intercalate_singleton,
        padded, String.append_assoc] using this
    | cons _ _ =>
      have := Barred.cons (hfill htext) (ih (List.cons_ne_nil _ _))
      simpa only [List.zipWith_cons_cons, String.intercalate_cons_cons, padded,
        String.append_assoc] using this

/-- A border is as wide as the lines within it. After its first column, a border goes on as one that
begins with the middle stroke. -/
theorem spans_border {left middle right : String} (hwidths : widths ≠ []) (hleft : Spans 1 left)
    (hmiddle : Spans 1 middle) (hright : Spans 1 right) :
    Spans (lineWidth widths) (border left middle right widths) := by
  have hstroke (n : Nat) : Spans n (repeated n '─') := spans_repeated (by decide +kernel) n
  induction widths generalizing left with
  | nil => exact absurd rfl hwidths
  | cons width widths ih =>
    have hfirst : Spans (width + 3) (left ++ repeated (width + 2) '─') := by
      have := hleft.append (hstroke (width + 2))
      rwa [Nat.add_comm 1] at this
    cases widths with
    | nil => simpa [border, lineWidth] using hfirst.append hright
    | cons next widths =>
      have hline : Spans (lineWidth (width :: next :: widths)) (left ++ repeated (width + 2) '─' ++
          border middle middle right (next :: widths)) :=
        hfirst.append (ih (List.cons_ne_nil _ _) hmiddle)
      simpa only [border, List.map_cons, String.intercalate_cons_cons, String.append_assoc] using
        hline

end Lines

/-! ## Tables -/

/-- The lines of a row: line `i` has line `i` of every cell, and no line of a cell is left out. -/
structure IsRow (widths : List Nat) (cells : List String) (lines : List String) : Prop where
  tall : ∀ cell ∈ cells, (pieces '\n' cell).length ≤ lines.length
  barred : ∀ (i : Nat) (line : String), lines[i]? = some line →
    Barred widths (cells.map fun cell => (pieces '\n' cell).getD i "") line

/-- The lines of a table, by its parts. -/
structure Drawing where
  widths : List Nat
  top : String
  header : List String
  rule : String
  /-- The lines of every row. -/
  rows : List (List String)
  bottom : String

/-- All lines, from the top to the bottom. -/
def Drawing.lines (d : Drawing) : List String :=
  [d.top] ++ d.header ++ [d.rule] ++ d.rows.flatten ++ [d.bottom]

/-- A drawing shows a header and rows: every cell in its column, in lines of one width. -/
structure Drawing.Shows (d : Drawing) (header : List String) (rows : List (List String)) :
    Prop where
  header : IsRow d.widths header d.header
  rows : List.Forall₂ (IsRow d.widths) rows d.rows
  even : ∀ line ∈ d.lines, displayWidth line = lineWidth d.widths

theorem Fits.line {widths : List Nat} {row : List Cell} (h : Fits widths row) (i : Nat) :
    List.Forall₂ (fun width text => displayWidth text ≤ width) widths
      (row.map fun cell => cell.getD i "") := by
  refine List.forall₂_map_right_iff.mpr (h.imp fun width cell hcell => ?_)
  rw [List.getD_eq_getElem?_getD]
  cases hline : cell[i]? with
  | none => exact Nat.zero_le width
  | some line => exact hcell line (List.mem_of_getElem? hline)

theorem isRow_rowLines {widths : List Nat} {cells : List String} (hwidths : widths ≠ [])
    (h : Fits widths (cells.map (pieces '\n'))) :
    IsRow widths cells (rowLines widths (cells.map (pieces '\n'))) where
  tall cell hcell := by
    rw [rowLines, List.length_map, List.length_range, List.foldl_max]
    exact le_max_of_le_right (List.le_max?_getD_of_mem
      (List.mem_map_of_mem (List.mem_map_of_mem hcell)))
  barred i line hline := by
    rw [rowLines, List.getElem?_map, Option.map_eq_some_iff] at hline
    obtain ⟨j, hj, rfl⟩ := hline
    obtain ⟨hi, hj⟩ := List.getElem?_eq_some_iff.mp hj
    obtain rfl : i = j := by rwa [List.getElem_range] at hj
    have hbarred := barred_intercalate hwidths (h.line i)
    rw [List.map_map, List.zipWith_map_right] at hbarred
    rw [rowLine, List.zipWith_map_right]
    exact hbarred

theorem IsRow.even {widths : List Nat} {cells lines : List String} (h : IsRow widths cells lines) :
    ∀ line ∈ lines, displayWidth line = lineWidth widths := by
  intro line hline
  obtain ⟨i, hi⟩ := List.getElem?_of_mem hline
  exact displayWidth_barred (h.barred i line hi)

/-- The drawing that a table is. -/
def drawing (header : List String) (rows : List (List String)) : Drawing :=
  let widths := columnWidths header.length ((header :: rows).map (·.map (pieces '\n')))
  { widths
    top := border "╭" "┬" "╮" widths
    header := rowLines widths (header.map (pieces '\n'))
    rule := border "├" "┼" "┤" widths
    rows := rows.map fun row => rowLines widths (row.map (pieces '\n'))
    bottom := border "╰" "┴" "╯" widths }

theorem lines_drawing (header : List String) (rows : List (List String)) :
    (drawing header rows).lines = table header rows := by
  simp only [drawing, Drawing.lines, table, List.flatMap_def, List.map_map, List.length_map,
    List.map_cons, Function.comp_def]

/-- **A table is drawn evenly**, with all its cells in their columns. -/
theorem shows_drawing {header : List String} {rows : List (List String)} (hheader : header ≠ [])
    (hrows : ∀ row ∈ rows, row.length = header.length) :
    (drawing header rows).Shows header rows := by
  let widths := (drawing header rows).widths
  have hcells : ∀ row ∈ (header :: rows).map (·.map (pieces '\n')),
      row.length = header.length := by
    simpa using hrows
  have hwidths : widths ≠ [] := by
    have hlength : widths.length = header.length := length_columnWidths hcells
    rw [← List.length_pos_iff, hlength]
    exact List.length_pos_iff.mpr hheader
  have hrow : ∀ row ∈ header :: rows,
      IsRow widths row (rowLines widths (row.map (pieces '\n'))) :=
    fun row h => isRow_rowLines hwidths (fits_columnWidths hcells _ (List.mem_map_of_mem h))
  obtain ⟨hhead, hrest⟩ := List.forall_mem_cons.mp hrow
  have hborder {left middle right : String} (hleft : Spans 1 left) (hmiddle : Spans 1 middle)
      (hright : Spans 1 right) : displayWidth (border left middle right widths) =
        lineWidth widths := (spans_border hwidths hleft hmiddle hright).displayWidth_eq
  refine ⟨hhead, List.forall₂_map_right_iff.mpr (List.forall₂_same.mpr hrest), ?_⟩
  simp only [Drawing.lines, List.forall_mem_append, List.forall_mem_singleton,
    List.forall_mem_flatten]
  refine ⟨⟨⟨⟨?_, hhead.even⟩, ?_⟩, ?_⟩, ?_⟩
  · exact hborder (by decide +kernel) (by decide +kernel) (by decide +kernel)
  · exact hborder (by decide +kernel) (by decide +kernel) (by decide +kernel)
  · exact List.forall_mem_map.mpr fun row h => (hrest row h).even
  · exact hborder (by decide +kernel) (by decide +kernel) (by decide +kernel)

end Chargeback.Display
