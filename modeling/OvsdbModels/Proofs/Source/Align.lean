/-
  OvsdbModels/Proofs/Source/Align.lean
  ====================================
  **Lines of aligned cells.**

  All cells of a row but the last are padded to the widths of their columns.  The last cells do not
  count for the widths, so whatever they hold, the cells before them stay where they are
  (`align_rows`).  Cells without spaces can be read back from their line, whatever the widths
  (`map_cellsOf_align`).
-/
import Mathlib.Data.String.Basic
import OvsdbModels.Proofs.Text.Form
import OvsdbModels.Source.Align

namespace OvsdbModels.Source

/-- The greatest length of some cells, and at least `least`. -/
def widthFrom (least : Nat) (cells : List String) : Nat :=
  cells.foldl (fun width cell => max width cell.length) least

/-- The width of the widest of some cells. -/
def widthOf (cells : List String) : Nat := widthFrom 0 cells

/-- A cell that is padded to a width, and the space behind it. -/
def cellText (width : Nat) (cell : String) : String :=
  cell ++ String.ofList (List.replicate (width - cell.length + 1) ' ')

variable {α : Type}

/-- The row of an item: its cells in some columns, and a last cell. -/
def rowOf (columns : List (α → String)) (last : α → String) (item : α) : List String :=
  columns.map (fun column => column item) ++ [last item]

/-! ### Widths -/

theorem widest_map (columns : List (α → String)) (v w : (α → String) → Nat) :
    widest (columns.map v) (columns.map w) = columns.map fun column => max (v column) (w column) := by
  induction columns with
  | nil => rfl
  | cons column columns ih => simp [widest, ih]

theorem rowWidths_rowOf (columns : List (α → String)) (last : α → String) (item : α) :
    rowWidths (rowOf columns last item) = columns.map fun column => (column item).length := by
  unfold rowWidths rowOf
  rw [List.dropLast_concat, List.map_map]
  rfl

theorem foldl_widest (columns : List (α → String)) (last : α → String) (items : List α)
    (least : (α → String) → Nat) :
    (items.map (rowOf columns last)).foldl (fun widths row => widest widths (rowWidths row))
        (columns.map least) =
      columns.map fun column => widthFrom (least column) (items.map column) := by
  induction items generalizing least with
  | nil => rfl
  | cons item items ih =>
    rw [List.map_cons, List.foldl_cons, rowWidths_rowOf, widest_map, ih]
    rfl

/-- The widths of columns are those of their widest cells; the last cells do not matter. -/
theorem columnWidths_rows (columns : List (α → String)) (last : α → String) {items : List α}
    (h : items ≠ []) : columnWidths (items.map (rowOf columns last)) =
      columns.map fun column => widthOf (items.map column) := by
  cases items with
  | nil => exact absurd rfl h
  | cons item items =>
    have hfirst : widest [] (rowWidths (rowOf columns last item)) =
        columns.map fun column => max 0 (column item).length := by
      simp [widest, rowWidths_rowOf]
    unfold columnWidths
    rw [List.map_cons, List.foldl_cons, hfirst, foldl_widest]
    rfl

/-! ### Lines -/

theorem keptCells_rowOf (columns : List (α → String)) {last : α → String} {item : α}
    (h : last item ≠ "") : keptCells (rowOf columns last item) = rowOf columns last item := by
  have hkept : (last item).isEmpty = false := by simpa using h
  simp [keptCells, rowOf, hkept]

theorem lineOf_cons (widths : List Nat) (cell : String) {cells : List String} (h : cells ≠ []) :
    lineOf widths (cell :: cells) = cellText (widths.headD 0) cell ++ lineOf widths.tail cells := by
  cases cells with
  | nil => exact absurd rfl h
  | cons next cells => rfl

theorem lineOf_rowOf (columns : List (α → String)) (last : α → String) (item : α)
    (widths : (α → String) → Nat) :
    lineOf (columns.map widths) (rowOf columns last item) =
      String.join (columns.map fun column => cellText (widths column) (column item)) ++
        last item := by
  induction columns with
  | nil => simp [rowOf, lineOf]
  | cons column columns ih =>
    have hrow : rowOf (column :: columns) last item = column item :: rowOf columns last item := rfl
    have hne : rowOf columns last item ≠ [] := by simp [rowOf]
    rw [hrow, List.map_cons, lineOf_cons _ _ hne, List.headD_cons, List.tail_cons, ih, List.map_cons,
      String.join_cons, String.append_assoc]

/-- Aligned rows: every cell is padded to the widest of its column, and the last one is as it is. -/
theorem align_rows (columns : List (α → String)) {last : α → String} {items : List α}
    (h : ∀ item ∈ items, last item ≠ "") :
    align (items.map (rowOf columns last)) = items.map fun item =>
      String.join (columns.map fun column => cellText (widthOf (items.map column)) (column item)) ++
        last item := by
  unfold align
  rw [List.map_map]
  apply List.map_congr_left
  intro item hitem
  have hne : items ≠ [] := List.ne_nil_of_mem hitem
  rw [Function.comp_apply, keptCells_rowOf columns (h item hitem), columnWidths_rows columns last hne,
    lineOf_rowOf]

/-! ### Reading cells back -/

open Text (HasForm)

/-- The characters that are neither a space nor a line feed. -/
def isVisible (c : Char) : Bool := c ≠ ' ' && c ≠ '\n'

/-- A text of visible characters, and at least one. -/
def IsCell (s : String) : Prop := HasForm isVisible isVisible s.toList

/-- A text that stays on its line and begins with a visible character. -/
def IsFlush (s : String) : Prop := HasForm isVisible (· ≠ '\n') s.toList

instance (s : String) : Decidable (IsCell s) := inferInstanceAs (Decidable (HasForm ..))

instance (s : String) : Decidable (IsFlush s) := inferInstanceAs (Decidable (HasForm ..))

/-- The cells of a line: one for each column, and then the rest of the line. -/
def cellsOf : Nat → List Char → List String
  | 0, line => [String.ofList line]
  | columns + 1, line =>
    String.ofList (line.takeWhile (· ≠ ' ')) ::
      cellsOf columns ((line.dropWhile (· ≠ ' ')).dropWhile (· = ' '))

theorem isVisible_iff (c : Char) : isVisible c = true ↔ c ≠ ' ' ∧ c ≠ '\n' := by
  simp [isVisible]

/-- The characters of a class are visible if a space and a line feed are not among them. -/
theorem isVisible_of_class {p : Char → Bool} {c : Char} (hspace : p ' ' = false)
    (hnewline : p '\n' = false) (h : p c = true) : isVisible c = true := by
  apply (isVisible_iff c).mpr
  constructor
  · rintro rfl
    simp [hspace] at h
  · rintro rfl
    simp [hnewline] at h

theorem IsFlush.newline_notMem {s : String} (h : IsFlush s) : '\n' ∉ s.toList := by
  have hall := h.forall_mem fun c hc => decide_eq_true ((isVisible_iff c).mp hc).2
  intro hmem
  exact absurd (hall '\n' hmem) (by decide)

theorem IsCell.isFlush {s : String} (h : IsCell s) : IsFlush s :=
  HasForm.imp (fun _ hc => hc) (fun c hc => decide_eq_true ((isVisible_iff c).mp hc).2) h

theorem IsCell.append {s t : String} (hs : IsCell s) (ht : IsCell t) : IsCell (s ++ t) := by
  rw [IsCell, String.toList_append]
  exact HasForm.append hs (ht.forall_mem fun _ hc => hc)

theorem IsFlush.append {s t : String} (hs : IsFlush s) (ht : '\n' ∉ t.toList) :
    IsFlush (s ++ t) := by
  rw [IsFlush, String.toList_append]
  apply HasForm.append hs
  intro c hc
  apply decide_eq_true
  rintro rfl
  exact ht hc

theorem toList_cellText (width : Nat) (cell rest : String) :
    (cellText width cell ++ rest).toList =
      cell.toList ++ (List.replicate (width - cell.length + 1) ' ' ++ rest.toList) := by
  simp [cellText]

theorem isFlush_cellText {cell rest : String} (hcell : IsCell cell) (hrest : IsFlush rest)
    (width : Nat) : IsFlush (cellText width cell ++ rest) := by
  have hvisible : ∀ c, isVisible c = true → decide (c ≠ '\n') = true :=
    fun c hc => decide_eq_true ((isVisible_iff c).mp hc).2
  rw [IsFlush, toList_cellText]
  apply HasForm.append hcell.isFlush
  intro c hc
  rcases List.mem_append.mp hc with hspace | hmem
  · rw [List.eq_of_mem_replicate hspace]
    decide
  · exact hrest.forall_mem hvisible c hmem

/-- The first cell of a line ends where its space begins, and the rest where the space ends. -/
theorem cellsOf_cellText {cell rest : String} (hcell : IsCell cell) (hrest : IsFlush rest)
    (columns width : Nat) :
    cellsOf (columns + 1) (cellText width cell ++ rest).toList =
      cell :: cellsOf columns rest.toList := by
  have hchars : ∀ c ∈ cell.toList, decide (c ≠ ' ') = true := by
    intro c hc
    have hvisible := hcell.forall_mem (fun _ h => h) c hc
    exact decide_eq_true ((isVisible_iff c).mp hvisible).1
  have hspaces : ∀ c ∈ List.replicate (width - cell.length + 1) ' ', decide (c = ' ') = true := by
    intro c hc
    exact decide_eq_true (List.eq_of_mem_replicate hc)
  obtain ⟨c, others, hfirst, hc, -⟩ := HasForm.exists_cons hrest
  have hstop : c ≠ ' ' := ((isVisible_iff c).mp hc).1
  rw [toList_cellText, cellsOf, List.takeWhile_append_of_pos hchars,
    List.dropWhile_append_of_pos hchars, List.replicate_succ, List.cons_append,
    List.takeWhile_cons_of_neg (by decide), List.dropWhile_cons_of_neg (by decide),
    ← List.cons_append, ← List.replicate_succ, List.dropWhile_append_of_pos hspaces, hfirst,
    List.dropWhile_cons_of_neg (by simpa using hstop)]
  simp

/-- A row that can be told from its line. -/
structure IsRow (columns : List (α → String)) (last : α → String) (item : α) : Prop where
  cells : ∀ column ∈ columns, IsCell (column item)
  last : IsFlush (last item)

variable {columns : List (α → String)} {last : α → String} {item : α} {items : List α}

theorem IsRow.tail {column : α → String} (h : IsRow (column :: columns) last item) :
    IsRow columns last item :=
  ⟨fun column hcolumn => h.cells column (List.mem_cons_of_mem _ hcolumn), h.last⟩

theorem isFlush_line (widths : (α → String) → Nat) (h : IsRow columns last item) :
    IsFlush (String.join (columns.map fun column => cellText (widths column) (column item)) ++
      last item) := by
  induction columns with
  | nil => simpa using h.last
  | cons column columns ih =>
    rw [List.map_cons, String.join_cons, String.append_assoc]
    exact isFlush_cellText (h.cells column List.mem_cons_self) (ih h.tail) _

theorem cellsOf_line (widths : (α → String) → Nat) (h : IsRow columns last item) :
    cellsOf columns.length (String.join (columns.map fun column =>
      cellText (widths column) (column item)) ++ last item).toList = rowOf columns last item := by
  induction columns with
  | nil => simp [cellsOf, rowOf]
  | cons column columns ih =>
    have hcell := h.cells column List.mem_cons_self
    rw [List.map_cons, String.join_cons, String.append_assoc, List.length_cons,
      cellsOf_cellText hcell (isFlush_line widths h.tail), ih h.tail]
    rfl

theorem IsRow.last_ne (h : IsRow columns last item) : last item ≠ "" := by
  intro hempty
  have hlast := h.last
  rw [IsFlush, hempty] at hlast
  exact nomatch hlast

theorem isFlush_of_mem_align (h : ∀ item ∈ items, IsRow columns last item) :
    ∀ line ∈ align (items.map (rowOf columns last)), IsFlush line := by
  rw [align_rows columns fun item hitem => (h item hitem).last_ne]
  intro line hline
  obtain ⟨item, hitem, rfl⟩ := List.mem_map.mp hline
  exact isFlush_line _ (h item hitem)

/-- The rows can be read back from their aligned lines. -/
theorem map_cellsOf_align (h : ∀ item ∈ items, IsRow columns last item) :
    (align (items.map (rowOf columns last))).map (fun line => cellsOf columns.length line.toList) =
      items.map (rowOf columns last) := by
  rw [align_rows columns fun item hitem => (h item hitem).last_ne, List.map_map]
  apply List.map_congr_left
  intro item hitem
  exact cellsOf_line _ (h item hitem)

end OvsdbModels.Source
