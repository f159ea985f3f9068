/-
  OvsdbModels/Proofs/Source/Offset.lean
  =====================================
  **Where aligned cells stand.**

  The widths of a table fit all of its rows: whatever cell is padded, its column is at least as wide
  (`fits_columnWidths`).  So the cells of one place stand at one offset in all lines, which the widths
  alone give, and a line is made of the cells of its row up to the last one that is not empty, with spaces
  between them (`isLineOf_align`).  Lengths and offsets count characters.
-/
import Mathlib.Data.List.DropRight
import Mathlib.Data.List.Forall2
import OvsdbModels.Proofs.Source.Align

namespace OvsdbModels.Source

/-! ### Offsets and lines -/

/-- The offset at which the cells of a place stand: every place before it takes up its width and one
space. -/
def offset : List Nat → Nat → Nat
  | _, 0 => 0
  | widths, place + 1 => widths.headD 0 + 1 + offset widths.tail place

theorem offset_succ (widths : List Nat) (place : Nat) :
    offset widths (place + 1) = offset widths place + ((widths.drop place).headD 0 + 1) := by
  induction place generalizing widths with
  | zero => exact Nat.add_comm _ _
  | succ place ih =>
    have htail := ih widths.tail
    rw [List.drop_tail] at htail
    rw [offset, htail, offset, ← Nat.add_assoc]

/-- One past the last cell of a row that is not empty. -/
structure IsEnd (row : List String) (n : Nat) : Prop where
  le : n ≤ row.length
  empty : ∀ cell ∈ row.drop n, cell = ""
  last : ∀ cell, (row.take n).getLast? = some cell → cell ≠ ""

/-- Whether the widths are enough for all cells of a row behind which another cell follows. -/
def Fits (widths : List Nat) (cells : List String) : Prop :=
  ∀ place cell, place + 1 < cells.length → cells[place]? = some cell →
    ∃ width, widths[place]? = some width ∧ cell.length ≤ width

/-- A line in which the given cells stand at the offsets of their places. -/
structure IsLineOf (widths : List Nat) (cells : List String) (line : String) : Prop where
  /-- Every cell stands in the line at the offset of its place. -/
  cell : ∀ place cell, cells[place]? = some cell → ∃ before after,
    line = before ++ cell ++ after ∧ before.length = offset widths place
  /-- Between two cells there are spaces, and at least one. -/
  gap : ∀ place cell next, cells[place]? = some cell → cells[place + 1]? = some next →
    ∃ before spaces after,
      line = before ++ cell ++ String.ofList (List.replicate (spaces + 1) ' ') ++ next ++ after ∧
        before.length = offset widths place ∧
        offset widths (place + 1) = offset widths place + cell.length + (spaces + 1)
  /-- The line ends with its last cell, and is empty without one. -/
  last : ∀ cell, cells.getLast? = some cell → ∃ before,
    line = before ++ cell ∧ before.length = offset widths (cells.length - 1)
  empty : cells = [] → line = ""

/-! ### Widths fit -/

/-- Whether the second list has a width in every place of the first, and none of them is less. -/
def AtMost (vs ws : List Nat) : Prop :=
  ∀ (place v : Nat), vs[place]? = some v → ∃ w, ws[place]? = some w ∧ v ≤ w

theorem AtMost.refl (ws : List Nat) : AtMost ws ws := fun _ v hv => ⟨v, hv, Nat.le_refl v⟩

theorem AtMost.nil (ws : List Nat) : AtMost [] ws := by
  intro place v hv
  rw [List.getElem?_nil] at hv
  exact absurd hv.symm (Option.some_ne_none v)

theorem AtMost.trans {us vs ws : List Nat} (h : AtMost us vs) (h' : AtMost vs ws) :
    AtMost us ws := by
  intro place u hu
  obtain ⟨v, hv, huv⟩ := h place u hu
  obtain ⟨w, hw, hvw⟩ := h' place v hv
  exact ⟨w, hw, Nat.le_trans huv hvw⟩

theorem atMost_widest (vs ws : List Nat) :
    AtMost vs (widest vs ws) ∧ AtMost ws (widest vs ws) := by
  induction vs, ws using widest.induct with
  | case1 ws =>
    rw [widest]
    exact ⟨.nil _, .refl ws⟩
  | case2 vs hvs =>
    rw [widest]
    · exact ⟨.refl vs, .nil _⟩
    · exact hvs
  | case3 v vs w ws ih =>
    obtain ⟨hleft, hright⟩ := ih
    constructor
    · rintro (_ | place) u hu
      · obtain rfl := Option.some.inj hu
        exact ⟨_, rfl, Nat.le_max_left ..⟩
      · exact hleft place u hu
    · rintro (_ | place) u hu
      · obtain rfl := Option.some.inj hu
        exact ⟨_, rfl, Nat.le_max_right ..⟩
      · exact hright place u hu

theorem atMost_foldl_widest (rows : List (List String)) (widths : List Nat) :
    AtMost widths (rows.foldl (fun widths row => widest widths (rowWidths row)) widths) ∧
      ∀ row ∈ rows,
        AtMost (rowWidths row)
          (rows.foldl (fun widths row => widest widths (rowWidths row)) widths) := by
  induction rows generalizing widths with
  | nil => exact ⟨.refl widths, fun _ hrow => absurd hrow List.not_mem_nil⟩
  | cons first rows ih =>
    obtain ⟨hwidths, hrows⟩ := ih (widest widths (rowWidths first))
    obtain ⟨hleft, hright⟩ := atMost_widest widths (rowWidths first)
    refine ⟨hleft.trans hwidths, fun row hrow => ?_⟩
    rcases List.mem_cons.mp hrow with rfl | hrow
    · exact hright.trans hwidths
    · exact hrows row hrow

theorem fits_of_atMost {widths : List Nat} {row : List String} (h : AtMost (rowWidths row) widths) :
    Fits widths row := by
  intro place cell hplace hcell
  apply h
  rw [rowWidths, List.getElem?_map, List.getElem?_dropLast, if_pos (by omega), hcell]
  rfl

/-- The widths of a table fit every row of the table. -/
theorem fits_columnWidths {rows : List (List String)} {row : List String} (h : row ∈ rows) :
    Fits (columnWidths rows) row :=
  fits_of_atMost ((atMost_foldl_widest rows []).2 row h)

theorem Fits.tail {widths : List Nat} {cell : String} {cells : List String}
    (h : Fits widths (cell :: cells)) : Fits widths.tail cells := by
  intro place next hplace hnext
  obtain ⟨width, hwidth, hle⟩ := h (place + 1) next (Nat.add_lt_add_right hplace 1) hnext
  exact ⟨width, by rwa [List.getElem?_tail], hle⟩

theorem Fits.head {widths : List Nat} {cell : String} {cells : List String} (hcells : cells ≠ [])
    (h : Fits widths (cell :: cells)) : cell.length ≤ widths.headD 0 := by
  have hlength := List.length_pos_iff.mpr hcells
  obtain ⟨width, hwidth, hle⟩ := h 0 cell (Nat.add_lt_add_right hlength 1) rfl
  rwa [List.headD_eq_head?_getD, List.head?_eq_getElem?, hwidth]

theorem Fits.append_right {widths : List Nat} {cells rest : List String}
    (h : Fits widths (cells ++ rest)) : Fits (widths.drop cells.length) rest := by
  induction cells generalizing widths with
  | nil => exact h
  | cons cell cells ih =>
    rw [List.length_cons, ← List.drop_tail]
    exact ih h.tail

theorem Fits.take {widths : List Nat} {row : List String} (h : Fits widths row) (n : Nat) :
    Fits widths (row.take n) := by
  intro place cell hplace hcell
  have hplace' := Nat.lt_of_lt_of_le hplace (List.length_take_le' n row)
  rw [List.getElem?_take] at hcell
  split at hcell
  · exact h place cell hplace' hcell
  · exact nomatch hcell

/-! ### Cells of a line -/

/-- The padded cells of some places, one after another. -/
def leadOf : List Nat → List String → String
  | _, [] => ""
  | widths, cell :: cells => cellText (widths.headD 0) cell ++ leadOf widths.tail cells

theorem lineOf_append (widths : List Nat) (cells : List String) {rest : List String}
    (h : rest ≠ []) :
    lineOf widths (cells ++ rest) =
      leadOf widths cells ++ lineOf (widths.drop cells.length) rest := by
  induction cells generalizing widths with
  | nil => simp [leadOf]
  | cons cell cells ih =>
    rw [List.cons_append, lineOf_cons _ _ (List.append_ne_nil_of_right_ne_nil _ h), ih, leadOf,
      String.append_assoc, List.length_cons, List.drop_tail]

theorem length_cellText {width : Nat} {cell : String} (h : cell.length ≤ width) :
    (cellText width cell).length = width + 1 := by
  simp [cellText]
  omega

theorem length_leadOf {widths : List Nat} {cells rest : List String} (hrest : rest ≠ [])
    (h : Fits widths (cells ++ rest)) : (leadOf widths cells).length = offset widths cells.length := by
  induction cells generalizing widths with
  | nil => rfl
  | cons cell cells ih =>
    have hhead := h.head (List.append_ne_nil_of_right_ne_nil _ hrest)
    rw [leadOf, String.length_append, length_cellText hhead, ih h.tail, List.length_cons, offset]

theorem exists_split {α : Type} {cells : List α} {place : Nat} {cell : α}
    (h : cells[place]? = some cell) :
    ∃ before after, cells = before ++ cell :: after ∧ before.length = place := by
  obtain ⟨hlt, hcell⟩ := List.getElem?_eq_some_iff.mp h
  refine ⟨cells.take place, cells.drop (place + 1), ?_, List.length_take_of_le (Nat.le_of_lt hlt)⟩
  rw [← hcell, List.getElem_cons_drop, List.take_append_drop]

theorem exists_lineOf_cons (widths : List Nat) (cell : String) (cells : List String) :
    ∃ after, lineOf widths (cell :: cells) = cell ++ after := by
  cases cells with
  | nil => exact ⟨"", by simp [lineOf]⟩
  | cons next cells =>
    rw [lineOf_cons _ _ (List.cons_ne_nil next cells), cellText, String.append_assoc]
    exact ⟨_, rfl⟩

/-- A line of cells that the widths fit has every cell at the offset of its place. -/
theorem isLineOf_lineOf {widths : List Nat} {cells : List String} (h : Fits widths cells) :
    IsLineOf widths cells (lineOf widths cells) where
  cell := by
    intro place cell hcell
    obtain ⟨before, after, rfl, rfl⟩ := exists_split hcell
    have hne := List.cons_ne_nil cell after
    obtain ⟨rest, hrest⟩ := exists_lineOf_cons (widths.drop before.length) cell after
    refine ⟨leadOf widths before, rest, ?_, length_leadOf hne h⟩
    rw [lineOf_append _ _ hne, hrest, String.append_assoc]
  gap := by
    intro place cell next hcell hnext
    obtain ⟨before, after, rfl, rfl⟩ := exists_split hcell
    rw [List.getElem?_append_right (Nat.le_add_right ..), Nat.add_sub_cancel_left,
      List.getElem?_cons_succ, ← List.head?_eq_getElem?] at hnext
    obtain ⟨after, rfl⟩ := List.head?_eq_some_iff.mp hnext
    -- the padding is a true difference, since the cell is no wider than its column
    have hwidth := h.append_right.head (List.cons_ne_nil next after)
    obtain ⟨rest, hrest⟩ := exists_lineOf_cons (widths.drop before.length).tail next after
    refine ⟨leadOf widths before, (widths.drop before.length).headD 0 - cell.length, rest, ?_,
      length_leadOf (List.cons_ne_nil cell _) h, ?_⟩
    · rw [lineOf_append _ _ (List.cons_ne_nil cell _), lineOf_cons _ _ (List.cons_ne_nil next after),
        hrest, cellText]
      simp only [String.append_assoc]
    · rw [offset_succ]
      omega
  last := by
    intro cell hcell
    obtain ⟨before, rfl⟩ := List.getLast?_eq_some_iff.mp hcell
    have hne := List.cons_ne_nil cell []
    refine ⟨leadOf widths before, ?_, ?_⟩
    · rw [lineOf_append _ _ hne]
      rfl
    · rw [length_leadOf hne h, List.length_append, List.length_singleton, Nat.add_sub_cancel]
  empty := by
    rintro rfl
    rfl

/-! ### Ends of rows -/

theorem keptCells_eq_take (row : List String) :
    keptCells row = row.take (keptCells row).length :=
  List.prefix_iff_eq_take.mp (List.rdropWhile_prefix String.isEmpty row)

theorem isEnd_keptCells (row : List String) : IsEnd row (keptCells row).length where
  le := (List.rdropWhile_prefix String.isEmpty row).length_le
  empty := by
    intro cell hcell
    have hsplit : keptCells row ++ row.rtakeWhile String.isEmpty = row :=
      List.rdropWhile_append_rtakeWhile
    have hdrop : (keptCells row ++ row.rtakeWhile String.isEmpty).drop (keptCells row).length =
        row.rtakeWhile String.isEmpty := List.drop_left
    rw [hsplit] at hdrop
    rw [hdrop] at hcell
    exact String.isEmpty_iff.mp (List.mem_rtakeWhile_imp hcell)
  last := by
    intro cell hcell
    have hhead := List.head?_dropWhile_not String.isEmpty row.reverse
    rw [← keptCells_eq_take, keptCells, List.getLast?_reverse] at hcell
    rw [hcell] at hhead
    rintro rfl
    exact absurd hhead (by decide)

/-- Aligned rows have a line each, made of the cells up to the last one that is not empty.  The widths
fit all rows, so the offset of a cell depends on its place alone. -/
theorem isLineOf_align (rows : List (List String)) :
    List.Forall₂ (fun row line => ∃ n, IsEnd row n ∧ Fits (columnWidths rows) row ∧
      IsLineOf (columnWidths rows) (row.take n) line) rows (align rows) := by
  rw [align, List.forall₂_map_right_iff, List.forall₂_same]
  intro row hrow
  have hfits := fits_columnWidths hrow
  refine ⟨(keptCells row).length, isEnd_keptCells row, hfits, ?_⟩
  rw [← keptCells_eq_take]
  apply isLineOf_lineOf
  -- the widths are those of the whole row, so they also fit what is kept of it
  rw [keptCells_eq_take]
  exact hfits.take _

-- `é` is one character, and the empty cell behind it keeps its place
example : align [["é", "", "x"], ["ab", "c", "", ""]] = ["é    x", "ab c"] := by decide

end OvsdbModels.Source
