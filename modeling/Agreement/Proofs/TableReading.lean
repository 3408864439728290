import Mathlib.Data.List.Forall2
import Mathlib.Order.Monotone.Basic
import Agreement.Proofs.TableLayout

/-!
# Reading a table back

A drawn table does not say how wide its columns are, but where no cell has spaces it shows that:
from left to right, a column ends at the first place after its offset at which every line has a
space. Two tables of the same shape that are drawn alike therefore have the same widths, and then
the same cells.
-/

namespace Agreement.Table

variable {widths widths' : List Nat} {cells cells' : List String} {chars : List Char}

/-! ## Offsets -/

theorem offset_succ {column : Nat} (h : column < widths.length) :
    offset widths (column + 1) = offset widths column + widths[column] + 2 := by
  rw [offset, offset, List.take_succ_eq_append_getElem h, List.map_append, List.sum_append]
  simp [Nat.add_assoc]

theorem offset_mono (widths : List Nat) : Monotone (offset widths) := by
  refine monotone_nat_of_le_succ fun column => ?_
  by_cases h : column < widths.length
  · rw [offset_succ h]
    omega
  · rw [offset, offset, List.take_of_length_le (by omega), List.take_of_length_le (by omega)]

theorem offset_length (h : widths ≠ []) : offset widths widths.length = lineLength widths := by
  have hpos : 0 < widths.length := List.length_pos_iff.mpr h
  rw [offset, List.take_length, sum_map_add_two, lineLength, if_neg h]
  omega

/-- Two spaces follow each column. -/
theorem LaidOut.space_after (h : LaidOut widths cells chars) {column : Nat}
    (hc : column < widths.length) : chars[offset widths column + widths[column]]? = some ' ' := by
  have hnext := offset_succ hc
  have hend : offset widths (column + 1) ≤ chars.length := by
    rw [h.length, ← offset_length (List.ne_nil_of_length_pos (Nat.zero_lt_of_lt hc))]
    exact offset_mono widths hc
  refine h.space _ (by omega) fun column' hc' => ?_
  rcases Nat.lt_trichotomy column' column with hlt | rfl | hgt
  · have hbefore := offset_mono widths hlt
    rw [Nat.succ_eq_add_one, offset_succ hc'] at hbefore
    omega
  · omega
  · have hafter := offset_mono widths hgt
    rw [Nat.succ_eq_add_one] at hafter
    omega

/-- The characters of a cell stand in its column. -/
theorem LaidOut.getElem?_cell (h : LaidOut widths cells chars) {column i : Nat}
    (hc : column < widths.length) (hw : i < widths[column])
    (hi : i < (cells.getD column "").length) :
    chars[offset widths column + i]? = (cells.getD column "").toList[i]? := by
  have hcolumn := congrArg (·[i]?) (h.cell column hc)
  rwa [List.getElem?_take_of_lt hw, List.getElem?_drop,
    List.getElem?_append_left (by rwa [String.length_toList])] at hcolumn

/-! ## Widths -/

/-- A column that is filled by a cell without spaces in one of two readings of a line is not
narrower in the other one. -/
theorem LaidOut.width_le (h : LaidOut widths cells chars) (h' : LaidOut widths' cells' chars)
    {column : Nat} (hc : column < widths.length) (hc' : column < widths'.length)
    (hoffset : offset widths column = offset widths' column)
    (hfull : (cells'.getD column "").length = widths'[column])
    (hspace : ' ' ∉ (cells'.getD column "").toList) : widths'[column] ≤ widths[column] := by
  by_contra hlt
  rw [Nat.not_le] at hlt
  -- Where the narrower column ends, the wider one would have a space in its cell.
  have hafter := h.space_after hc
  rw [hoffset, h'.getElem?_cell hc' hlt (hfull ▸ hlt)] at hafter
  exact hspace (List.mem_of_getElem? hafter)

/-- Whether each row has a cell for each one of the header, and no cell has a space or a line break.
-/
structure Plain (t : Table) : Prop where
  rows : ∀ row ∈ t.rows, row.length = t.header.length
  cells : ∀ line ∈ t.lines, ∀ cell ∈ line, ' ' ∉ cell.toList ∧ '\n' ∉ cell.toList

variable {t u : Table}

namespace Plain

theorem length_eq (ht : t.Plain) {line : List String} (hline : line ∈ t.lines) :
    line.length = t.header.length := by
  rcases List.mem_cons.mp hline with rfl | hrow
  · rfl
  · exact ht.rows line hrow

theorem length_widths (ht : t.Plain) : t.widths.length = t.header.length := by
  obtain ⟨line, hline, hlength⟩ :=
    List.mem_map.mp (List.max?_eq_some_iff.mp t.max?_lengths).1
  rw [← hlength, ht.length_eq hline]

theorem drawnLines_eq (ht : t.Plain) (hu : u.Plain) (h : t.render = u.render) :
    t.drawnLines = u.drawnLines := by
  rw [← t.splitOn_render fun line hline cell hcell => (ht.cells line hline cell hcell).2,
    ← u.splitOn_render fun line hline cell hcell => (hu.cells line hline cell hcell).2, h]

end Plain

theorem length_drawnLines (t : Table) :
    t.drawnLines.length = 3 + (if 2 ≤ t.rows.length then 1 else 0) + t.rows.length := by
  rw [drawnLines, List.length_cons, List.length_cons, List.length_append, List.length_append,
    List.length_map]
  split <;> simp <;> omega

/-- The divider comes with the second row, so that more rows are more lines. -/
theorem length_rows_of_drawnLines_eq (h : t.drawnLines = u.drawnLines) :
    t.rows.length = u.rows.length := by
  have hlines := congrArg List.length h
  rw [length_drawnLines, length_drawnLines] at hlines
  split at hlines
  · split at hlines <;> omega
  · split at hlines <;> omega

/-- The lines of cells are the same one by one. -/
theorem forall₂_of_drawnLines_eq (h : t.drawnLines = u.drawnLines) :
    List.Forall₂ (fun cells cells' =>
      (renderLine t.widths cells).toList = (renderLine u.widths cells').toList)
      t.lines u.lines := by
  have hlength := length_rows_of_drawnLines_eq h
  obtain ⟨-, htail⟩ := List.cons.inj h
  obtain ⟨hheader, hrest⟩ := List.cons.inj htail
  obtain ⟨hrest, -⟩ := List.append_inj' hrest rfl
  obtain ⟨-, hrows⟩ := List.append_inj' hrest (by rw [List.length_map, List.length_map, hlength])
  rw [← List.forall₂_eq_eq_eq, List.forall₂_map_left_iff, List.forall₂_map_right_iff] at hrows
  exact .cons hheader hrows

theorem forall₂_exists_of_mem_right {α β : Type} {R : α → β → Prop} {as : List α} {bs : List β}
    (h : List.Forall₂ R as bs) {b : β} (hb : b ∈ bs) : ∃ a ∈ as, R a b := by
  induction h with
  | nil => cases hb
  | cons hab _ ih =>
      rcases List.mem_cons.mp hb with rfl | hb
      · exact ⟨_, List.mem_cons_self, hab⟩
      · obtain ⟨a, ha, hab⟩ := ih hb
        exact ⟨a, List.mem_cons_of_mem _ ha, hab⟩

namespace Plain

theorem width_le (hu : u.Plain) (h : t.drawnLines = u.drawnLines) {column : Nat}
    (hct : column < t.widths.length) (hcu : column < u.widths.length)
    (hoffset : offset t.widths column = offset u.widths column) :
    u.widths[column] ≤ t.widths[column] := by
  obtain ⟨cells', hcells', hfull⟩ :=
    List.mem_map.mp (List.max?_eq_some_iff.mp (u.max?_cells hcu)).1
  obtain ⟨cells, hcells, hline⟩ := forall₂_exists_of_mem_right (forall₂_of_drawnLines_eq h) hcells'
  have hlaid := (t.fits_widths hcells).laidOut
  have hlaid' := (u.fits_widths hcells').laidOut
  rw [hline] at hlaid
  refine hlaid.width_le hlaid' hct hcu hoffset hfull fun hspace => ?_
  obtain ⟨cell, hcell, hmem⟩ := mem_of_mem_getD hspace
  exact (hu.cells cells' hcells' cell hcell).1 hmem

theorem widths_eq (ht : t.Plain) (hu : u.Plain) (hheader : t.header.length = u.header.length)
    (h : t.drawnLines = u.drawnLines) : t.widths = u.widths := by
  have hlength : t.widths.length = u.widths.length := by
    rw [ht.length_widths, hu.length_widths, hheader]
  have htake : ∀ column ≤ t.widths.length, t.widths.take column = u.widths.take column := by
    intro column hle
    induction column with
    | zero => rfl
    | succ column ih =>
        have hct : column < t.widths.length := hle
        have hcu : column < u.widths.length := hlength ▸ hct
        have hbefore := ih (Nat.le_of_lt hct)
        have hoffset : offset t.widths column = offset u.widths column := by
          rw [offset, offset, hbefore]
        have hwidth : t.widths[column] = u.widths[column] :=
          Nat.le_antisymm (ht.width_le h.symm hcu hct hoffset.symm) (hu.width_le h hct hcu hoffset)
        rw [List.take_succ_eq_append_getElem hct, List.take_succ_eq_append_getElem hcu, hbefore,
          hwidth]
  have hall := htake t.widths.length (Nat.le_refl _)
  rwa [List.take_length, hlength, List.take_length] at hall

end Plain

/-! ## Cells -/

theorem eq_of_append_replicate_eq {c : Char} {xs ys : List Char} {m n : Nat} (hxs : c ∉ xs)
    (hys : c ∉ ys) (h : xs ++ List.replicate m c = ys ++ List.replicate n c) : xs = ys := by
  have htake : ∀ (zs : List Char) (k : Nat), c ∉ zs →
      (zs ++ List.replicate k c).takeWhile (· != c) = zs := by
    intro zs k hzs
    have hne : ∀ z ∈ zs, (z != c) = true := fun z hz => bne_iff_ne.mpr fun heq => hzs (heq ▸ hz)
    rw [List.takeWhile_append_of_pos hne]
    simp
  rw [← htake xs m hxs, h, htake ys n hys]

/-- A line is the line of no other cells. -/
theorem LaidOut.cells_eq (h : LaidOut widths cells chars) (h' : LaidOut widths cells' chars)
    (hlength : cells.length = widths.length) (hlength' : cells'.length = widths.length)
    (hspace : ∀ cell ∈ cells, ' ' ∉ cell.toList) (hspace' : ∀ cell ∈ cells', ' ' ∉ cell.toList) :
    cells = cells' := by
  refine List.ext_getElem (hlength.trans hlength'.symm) fun column hc hc' => ?_
  have hcolumn := h.cell column (hlength ▸ hc)
  rw [h'.cell column (hlength ▸ hc), List.getD_eq_getElem _ _ hc,
    List.getD_eq_getElem _ _ hc'] at hcolumn
  exact String.toList_injective (eq_of_append_replicate_eq (hspace _ (List.getElem_mem hc))
    (hspace' _ (List.getElem_mem hc')) hcolumn.symm)

theorem Plain.lines_eq (ht : t.Plain) (hu : u.Plain) (hheader : t.header.length = u.header.length)
    (h : t.drawnLines = u.drawnLines) : t.lines = u.lines := by
  have hwidths := ht.widths_eq hu hheader h
  have hlines := forall₂_of_drawnLines_eq h
  rw [← hwidths] at hlines
  refine List.ext_getElem hlines.length_eq fun row hrow hrow' => ?_
  have hline := hlines.get hrow hrow'
  rw [List.get_eq_getElem, List.get_eq_getElem] at hline
  have hmem : t.lines[row] ∈ t.lines := List.getElem_mem hrow
  have hmem' : u.lines[row] ∈ u.lines := List.getElem_mem hrow'
  have hlaid := (t.fits_widths hmem).laidOut
  have hlaid' := (u.fits_widths hmem').laidOut
  rw [← hwidths, ← hline] at hlaid'
  refine hlaid.cells_eq hlaid' ?_ ?_ (fun cell hcell => (ht.cells _ hmem cell hcell).1)
    fun cell hcell => (hu.cells _ hmem' cell hcell).1
  · rw [ht.length_eq hmem, ht.length_widths]
  · rw [hu.length_eq hmem', ht.length_widths, hheader]

/-- Two tables of the same shape without spaces or line breaks in their cells are the same if their
drawings are. -/
theorem eq_of_render_eq (hheader : t.header.length = u.header.length)
    (htrows : ∀ row ∈ t.rows, row.length = t.header.length)
    (hurows : ∀ row ∈ u.rows, row.length = u.header.length)
    (htcells : ∀ line ∈ t.lines, ∀ cell ∈ line, ' ' ∉ cell.toList ∧ '\n' ∉ cell.toList)
    (hucells : ∀ line ∈ u.lines, ∀ cell ∈ line, ' ' ∉ cell.toList ∧ '\n' ∉ cell.toList)
    (h : t.render = u.render) : t = u := by
  have ht : t.Plain := ⟨htrows, htcells⟩
  have hu : u.Plain := ⟨hurows, hucells⟩
  obtain ⟨heq, hrows⟩ := List.cons.inj (ht.lines_eq hu hheader (ht.drawnLines_eq hu h))
  exact congrArg₂ mk heq hrows

/-- A table with an empty column, put together row by row. -/
theorem pushed_eq_of_render_eq :
    let t : Table := { header := ["", "intr", ""], rows := [["1s", "", ""], ["1p", "-o", ""]] }
    let u : Table := (push { header := ["", "intr", ""] } ["1s", "", ""]).push ["1p", "-o", ""]
    t.render = u.render ∧ t = u := by
  intro t u
  have h : t.render = u.render := rfl
  exact ⟨h, eq_of_render_eq rfl (by decide) (by decide) (by decide) (by decide) h⟩

end Agreement.Table
