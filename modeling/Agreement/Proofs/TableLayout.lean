import Mathlib.Algebra.BigOperators.Group.List.Basic
import Mathlib.Data.List.GetD
import Mathlib.Data.Nat.Cast.Basic
import Agreement.Proofs.Notation
import Agreement.Table

/-!
# The layout of a table

The scan over the lines of a table finds the number of its columns and the width of each, however
long the lines are. With these widths every character of the drawn table has its place: the cells
begin at the offsets of their columns, in each line at the same ones, and there are spaces
everywhere else.
-/

namespace Agreement.Table

/-! ## Widths -/

theorem length_widen (widths : List Nat) (line : List String) :
    (widen widths line).length = max widths.length line.length := by
  fun_induction widen widths line with
  | case1 widths => simp
  | case2 cell line ih => simp [ih]
  | case3 width widths cell line ih => simp [ih, Nat.add_max_add_right]

theorem getD_widen (widths : List Nat) (line : List String) (column : Nat) :
    (widen widths line).getD column 0 =
      max (widths.getD column 0) (line.getD column "").length := by
  fun_induction widen widths line generalizing column with
  | case1 widths => simp
  | case2 cell line ih =>
      cases column with
      | zero => simp
      | succ column => simpa using ih column
  | case3 width widths cell line ih =>
      cases column with
      | zero => simp
      | succ column => simpa using ih column

/-- The scan keeps a column for each cell of the longest line so far. -/
theorem length_foldl_widen (widths : List Nat) (lines : List (List String)) :
    (lines.foldl widen widths).length = (lines.map List.length).foldl max widths.length := by
  induction lines generalizing widths with
  | nil => rfl
  | cons line lines ih =>
      rw [List.foldl_cons, ih, length_widen, List.map_cons, List.foldl_cons]

/-- The scan keeps the length of the longest cell so far in each column. -/
theorem getD_foldl_widen (widths : List Nat) (lines : List (List String)) (column : Nat) :
    (lines.foldl widen widths).getD column 0 =
      (lines.map fun line => (line.getD column "").length).foldl max (widths.getD column 0) := by
  induction lines generalizing widths with
  | nil => rfl
  | cons line lines ih =>
      rw [List.foldl_cons, ih, getD_widen, List.map_cons, List.foldl_cons]

variable (t : Table)

theorem max?_lengths : (t.lines.map List.length).max? = some t.widths.length := by
  rw [widths, length_foldl_widen, List.length_replicate, lines, List.map_cons, List.max?_cons',
    List.foldl_cons, Nat.max_self]

theorem max?_cells {column : Nat} (h : column < t.widths.length) :
    (t.lines.map fun line => (line.getD column "").length).max? = some t.widths[column] := by
  have hwidth : t.widths[column] = t.widths.getD column 0 := by simp [h]
  have hzero : (List.replicate t.header.length 0).getD column 0 = 0 := by
    rw [List.getD_eq_getElem?_getD, List.getElem?_replicate]
    split <;> rfl
  rw [hwidth, widths, getD_foldl_widen, hzero, lines, List.map_cons, List.max?_cons',
    List.foldl_cons, Nat.zero_max]

/-! ## Blocks

A line is made of blocks, each of them a padded cell and two spaces. -/

def blocks (cells : List String) : List Char :=
  cells.flatMap (·.toList ++ [' ', ' '])

theorem blocks_cons (cell : String) (cells : List String) :
    blocks (cell :: cells) = cell.toList ++ ' ' :: ' ' :: blocks cells := by
  simp [blocks]

theorem intercalate_append_spaces {cells : List String} (hne : cells ≠ []) :
    [' ', ' '].intercalate (cells.map String.toList) ++ [' ', ' '] = blocks cells := by
  induction cells with
  | nil => exact absurd rfl hne
  | cons cell cells ih =>
      cases cells with
      | nil => simp [blocks]
      | cons cell' cells =>
          have hrest := ih (List.cons_ne_nil cell' cells)
          rw [List.map_cons] at hrest ⊢
          rw [List.map_cons, List.intercalate_cons_cons, List.append_assoc, hrest,
            blocks_cons cell, List.append_assoc]
          rfl

theorem length_blocks (cells : List String) :
    (blocks cells).length = ((cells.map String.length).map (· + 2)).sum := by
  simp [blocks, List.length_flatMap, Function.comp_def, String.length_toList]

/-- A cell begins where the blocks before it end. -/
theorem take_drop_blocks {cells : List String} {column : Nat} (h : column < cells.length) :
    ((blocks cells).drop (blocks (cells.take column)).length).take cells[column].length =
      cells[column].toList := by
  have hsplit : blocks cells = blocks (cells.take column) ++
      (cells[column].toList ++ ' ' :: ' ' :: blocks (cells.drop (column + 1))) := by
    rw [← blocks_cons, List.getElem_cons_drop]
    unfold blocks
    rw [← List.flatMap_append, List.take_append_drop]
  rw [hsplit, List.drop_left, ← String.length_toList, List.take_left]

/-- Between the cells there is nothing but spaces. -/
theorem getElem?_blocks_eq_space {cells : List String} {p : Nat} (hp : p < (blocks cells).length)
    (h : ∀ (column : Nat) (hc : column < cells.length),
      p < (blocks (cells.take column)).length ∨
        (blocks (cells.take column)).length + cells[column].length ≤ p) :
    (blocks cells)[p]? = some ' ' := by
  induction cells generalizing p with
  | nil => cases hp
  | cons cell cells ih =>
      have hcell : cell.toList.length ≤ p := by
        have hfirst := h 0 (Nat.zero_lt_succ _)
        simpa [blocks, String.length_toList] using hfirst
      rw [blocks_cons, List.length_append, List.length_cons, List.length_cons] at hp
      rw [blocks_cons, List.getElem?_append_right hcell]
      rcases hrest : p - cell.toList.length with _ | _ | q
      · rfl
      · rfl
      · -- The position is in a later block.
        refine ih (by omega) fun column hc => ?_
        have hcolumn := h (column + 1) (Nat.succ_lt_succ hc)
        rw [List.take_succ_cons, blocks_cons, List.length_append, List.length_cons,
          List.length_cons, List.getElem_cons_succ] at hcolumn
        omega

/-! ## Lines -/

/-- The number of characters of a line. -/
def lineLength (widths : List Nat) : Nat :=
  if widths = [] then 4 else 4 + widths.sum + 2 * (widths.length - 1)

/-- The position in a line at which a column begins. -/
def offset (widths : List Nat) (column : Nat) : Nat :=
  2 + ((widths.take column).map (· + 2)).sum

/-- Whether the characters of a line show cells in columns of the given widths: each cell at the
beginning of its column, and spaces in the rest of the column and outside the columns. -/
structure LaidOut (widths : List Nat) (cells : List String) (chars : List Char) : Prop where
  length : chars.length = lineLength widths
  cell : ∀ (column : Nat) (h : column < widths.length),
    (chars.drop (offset widths column)).take widths[column] =
      (cells.getD column "").toList ++
        List.replicate (widths[column] - (cells.getD column "").length) ' '
  space : ∀ p < chars.length,
    (∀ (column : Nat) (h : column < widths.length),
      p < offset widths column ∨ offset widths column + widths[column] ≤ p) →
    chars[p]? = some ' '

theorem toList_pushn (s : String) (c : Char) (n : Nat) :
    (s.pushn c n).toList = s.toList ++ List.replicate n c := by
  induction n with
  | zero => simp [String.pushn, Nat.repeat]
  | succ n ih =>
      rw [String.pushn] at ih ⊢
      rw [Nat.repeat, String.toList_push, ih, List.append_assoc, List.replicate_succ']

theorem toList_pad (width : Nat) (s : String) :
    (pad width s).toList = s.toList ++ List.replicate (width - s.length) ' ' := by
  rw [pad, String.toList_append, toList_pushn]
  rfl

theorem toList_rule (c : Char) (length : Nat) :
    (rule c length).toList = List.replicate length c := by
  rw [rule, toList_pushn]
  rfl

/-- The cells of a line, padded to the widths of their columns. -/
def padded (widths : List Nat) (cells : List String) : List String :=
  widths.mapIdx fun column width => pad width (cells.getD column "")

theorem toList_renderLine (widths : List Nat) (cells : List String) :
    (renderLine widths cells).toList =
      ' ' :: ' ' ::
        ([' ', ' '].intercalate ((padded widths cells).map String.toList) ++ [' ', ' ']) := by
  simp [renderLine, padded]

theorem length_padded (widths : List Nat) (cells : List String) :
    (padded widths cells).length = widths.length := List.length_mapIdx

/-- Whether no cell is longer than its column is wide. -/
def Fits (widths : List Nat) (cells : List String) : Prop :=
  ∀ (column : Nat) (h : column < widths.length), (cells.getD column "").length ≤ widths[column]

variable {widths : List Nat} {cells : List String}

theorem toList_getElem_padded {column : Nat} (hp : column < (padded widths cells).length)
    (hw : column < widths.length) :
    (padded widths cells)[column].toList = (cells.getD column "").toList ++
      List.replicate (widths[column] - (cells.getD column "").length) ' ' := by
  simp only [padded, List.getElem_mapIdx, toList_pad]

theorem Fits.length_getElem_padded (h : Fits widths cells) {column : Nat}
    (hp : column < (padded widths cells).length) (hw : column < widths.length) :
    (padded widths cells)[column].length = widths[column] := by
  have hcell := h column hw
  rw [← String.length_toList, toList_getElem_padded hp hw, List.length_append,
    List.length_replicate, String.length_toList]
  omega

theorem Fits.map_length_padded (h : Fits widths cells) :
    (padded widths cells).map String.length = widths := by
  refine List.ext_getElem (by rw [List.length_map, length_padded]) fun column hc hw => ?_
  rw [List.getElem_map, h.length_getElem_padded (length_padded widths cells ▸ hw) hw]

theorem Fits.length_blocks_take (h : Fits widths cells) (column : Nat) :
    2 + (blocks ((padded widths cells).take column)).length = offset widths column := by
  rw [length_blocks, List.map_take, h.map_length_padded, offset]

theorem sum_map_add_two (widths : List Nat) :
    (widths.map (· + 2)).sum = widths.sum + 2 * widths.length := by
  simp [List.sum_map_add, Nat.mul_comm]

/-- A line without columns is four spaces. -/
theorem laidOut_nil (cells : List String) : LaidOut [] cells (renderLine [] cells).toList := by
  have hline : (renderLine [] cells).toList = List.replicate 4 ' ' := by
    rw [toList_renderLine]
    rfl
  rw [hline]
  refine ⟨rfl, fun column hc => absurd hc (Nat.not_lt_zero column), fun p hp _ => ?_⟩
  rw [List.length_replicate] at hp
  rw [List.getElem?_replicate, if_pos hp]

theorem Fits.laidOut_blocks (h : Fits widths cells) (hne : widths ≠ []) :
    LaidOut widths cells (' ' :: ' ' :: blocks (padded widths cells)) where
  length := by
    have hpos : 0 < widths.length := List.length_pos_iff.mpr hne
    rw [List.length_cons, List.length_cons, length_blocks, h.map_length_padded, sum_map_add_two,
      lineLength, if_neg hne]
    omega
  cell column hw := by
    have hp : column < (padded widths cells).length := length_padded widths cells ▸ hw
    have hcell := take_drop_blocks hp
    rw [h.length_getElem_padded hp hw, toList_getElem_padded hp hw] at hcell
    rwa [← h.length_blocks_take, Nat.add_comm 2, List.drop_succ_cons, List.drop_succ_cons]
  space p hp hspace := by
    rcases p with _ | _ | p
    · rfl
    · rfl
    · -- The two spaces at the beginning are left out of account from here on.
      rw [List.length_cons, List.length_cons] at hp
      refine getElem?_blocks_eq_space (by omega) fun column hc => ?_
      have hw : column < widths.length := length_padded widths cells ▸ hc
      have hcolumn := hspace column hw
      rw [← h.length_blocks_take, ← h.length_getElem_padded hc hw] at hcolumn
      omega

theorem Fits.laidOut (h : Fits widths cells) :
    LaidOut widths cells (renderLine widths cells).toList := by
  by_cases hw : widths = []
  · subst hw
    exact laidOut_nil cells
  · have hne : padded widths cells ≠ [] := by
      rwa [ne_eq, ← List.length_eq_zero_iff, length_padded, List.length_eq_zero_iff]
    rw [toList_renderLine, intercalate_append_spaces hne]
    exact h.laidOut_blocks hw

/-! ## The drawn table -/

theorem mem_of_mem_getD {column : Nat} {c : Char} (hc : c ∈ (cells.getD column "").toList) :
    ∃ cell ∈ cells, c ∈ cell.toList := by
  by_cases h : column < cells.length
  · rw [List.getD_eq_getElem _ _ h] at hc
    exact ⟨_, List.getElem_mem h, hc⟩
  · rw [List.getD_eq_default _ _ (Nat.le_of_not_lt h)] at hc
    exact absurd hc List.not_mem_nil

theorem mem_renderLine {c : Char} (hc : c ∈ (renderLine widths cells).toList) :
    c = ' ' ∨ ∃ cell ∈ cells, c ∈ cell.toList := by
  have hspaces : ∀ c ∈ [' ', ' '], c = ' ' :=
    List.forall_mem_cons.mpr ⟨rfl, List.forall_mem_singleton.mpr rfl⟩
  rw [toList_renderLine, ← List.cons_append, ← List.cons_append, List.mem_append] at hc
  rcases hc with hc | hc
  · rw [List.mem_cons, List.mem_cons] at hc
    rcases hc with rfl | rfl | hc
    · exact Or.inl rfl
    · exact Or.inl rfl
    · rcases mem_intercalate hc with hc | ⟨w, hw, hc⟩
      · exact Or.inl (hspaces c hc)
      · obtain ⟨cell, hcell, rfl⟩ := List.mem_map.mp hw
        obtain ⟨column, hcolumn, rfl⟩ := List.mem_mapIdx.mp hcell
        rw [toList_pad, List.mem_append] at hc
        rcases hc with hc | hc
        · exact Or.inr (mem_of_mem_getD hc)
        · exact Or.inl (List.eq_of_mem_replicate hc)
  · exact Or.inl (hspaces c hc)

variable (t : Table)

theorem fits_widths {line : List String} (hline : line ∈ t.lines) : Fits t.widths line := by
  intro column hc
  have hmax := (List.max?_eq_some_iff.mp (t.max?_cells hc)).2
  exact hmax _ (List.mem_map_of_mem hline)

theorem length_renderLine {line : List String} (hline : line ∈ t.lines) :
    (renderLine t.widths line).length = lineLength t.widths := by
  rw [← String.length_toList, (t.fits_widths hline).laidOut.length]

/-- The lines of a drawn table. -/
def drawnLines (t : Table) : List (List Char) :=
  List.replicate (lineLength t.widths) '=' :: (renderLine t.widths t.header).toList ::
    ((if 2 ≤ t.rows.length then [List.replicate (lineLength t.widths) '-'] else []) ++
      t.rows.map (fun row => (renderLine t.widths row).toList) ++
      [List.replicate (lineLength t.widths) '='])

theorem toList_render : t.render.toList = ['\n'].intercalate t.drawnLines := by
  have hnewline : "\n".toList = ['\n'] := rfl
  rw [render, String.toList_intercalate, hnewline, t.length_renderLine List.mem_cons_self]
  by_cases h : 2 ≤ t.rows.length
  · simp [drawnLines, toList_rule, h, Nat.lt_of_succ_le h, Function.comp_def]
  · simp [drawnLines, toList_rule, h, Nat.not_lt_of_ge (Nat.le_of_not_lt h), Function.comp_def]

variable {t} in
theorem newline_not_mem_drawnLines
    (hcells : ∀ line ∈ t.lines, ∀ cell ∈ line, '\n' ∉ cell.toList) :
    ∀ line ∈ t.drawnLines, '\n' ∉ line := by
  have hrule : ∀ c : Char, c ≠ '\n' → '\n' ∉ List.replicate (lineLength t.widths) c :=
    fun c hc h => hc (List.eq_of_mem_replicate h).symm
  have hline : ∀ line ∈ t.lines, '\n' ∉ (renderLine t.widths line).toList := by
    intro line hline hmem
    rcases mem_renderLine hmem with h | ⟨cell, hcell, h⟩
    · exact absurd h (by decide)
    · exact hcells line hline cell hcell h
  simp only [drawnLines, List.forall_mem_cons, List.forall_mem_append, List.forall_mem_map]
  refine ⟨hrule '=' (by decide), hline _ List.mem_cons_self, ⟨?_, ?_⟩, hrule '=' (by decide),
    List.forall_mem_nil _⟩
  · split
    · exact List.forall_mem_singleton.mpr (hrule '-' (by decide))
    · exact List.forall_mem_nil _
  · exact fun row hrow => hline row (List.mem_cons_of_mem _ hrow)

theorem splitOn_render (hcells : ∀ line ∈ t.lines, ∀ cell ∈ line, '\n' ∉ cell.toList) :
    t.render.toList.splitOn '\n' = t.drawnLines := by
  rw [toList_render]
  exact List.splitOn_intercalate '\n' (newline_not_mem_drawnLines hcells) (List.cons_ne_nil _ _)

/-- A drawn table is its lines between two borders, with a divider below the header if there are two
rows or more. There are as many columns as the longest line has cells, each as wide as its longest
cell, and each line shows its cells in these columns. -/
theorem render_layout (hcells : ∀ line ∈ t.lines, ∀ cell ∈ line, '\n' ∉ cell.toList) :
    (t.lines.map List.length).max? = some t.widths.length ∧
    (∀ (column : Nat) (h : column < t.widths.length),
      (t.lines.map fun line => (line.getD column "").length).max? = some t.widths[column]) ∧
    ∃ head rows,
      t.render.toList.splitOn '\n' =
        List.replicate (lineLength t.widths) '=' :: head ::
          ((if 2 ≤ t.rows.length then [List.replicate (lineLength t.widths) '-'] else []) ++ rows ++
            [List.replicate (lineLength t.widths) '=']) ∧
      LaidOut t.widths t.header head ∧ List.Forall₂ (LaidOut t.widths) t.rows rows := by
  refine ⟨t.max?_lengths, fun column h => t.max?_cells h, _, _, t.splitOn_render hcells,
    (t.fits_widths List.mem_cons_self).laidOut, ?_⟩
  rw [List.forall₂_map_right_iff, List.forall₂_same]
  exact fun row hrow => (t.fits_widths (List.mem_cons_of_mem _ hrow)).laidOut

/-- A table with rows of all lengths. -/
def ragged : Table where
  header := ["", "intr"]
  rows := [["1s", "é", "-"], [], ["2s", "ab"]]

theorem ragged_layout :
    (∀ line ∈ ragged.lines, ∀ cell ∈ line, '\n' ∉ cell.toList) ∧
    ragged.widths = [2, 4, 1] ∧
    ∃ head rows,
      ragged.render.toList.splitOn '\n' =
        List.replicate 15 '=' :: head ::
          ([List.replicate 15 '-'] ++ rows ++ [List.replicate 15 '=']) ∧
      LaidOut [2, 4, 1] ragged.header head ∧ List.Forall₂ (LaidOut [2, 4, 1]) ragged.rows rows := by
  have hcells : ∀ line ∈ ragged.lines, ∀ cell ∈ line, '\n' ∉ cell.toList := by decide
  have hwidths : ragged.widths = [2, 4, 1] := by decide
  obtain ⟨-, -, head, rows, hlines, hhead, hrows⟩ := ragged.render_layout hcells
  rw [hwidths] at hlines hhead hrows
  exact ⟨hcells, hwidths, head, rows, hlines, hhead, hrows⟩

end Agreement.Table
