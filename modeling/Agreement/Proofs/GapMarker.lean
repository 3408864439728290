import Agreement.Proofs.Paradigm

/-!
# Gaps and the gap marker

A table decides by the text of a cell where to put the marker. That is a gap, except that a cell
whose items all have empty forms has no text either.
-/

namespace Agreement

theorem Item.spellOut_eq_empty_iff {items : List Item} :
    Item.spellOut items = "" ↔ ∀ i ∈ items, i.form = "" := by
  induction items with
  | nil => simp [spellOut]
  | cons i items ih =>
      simp only [spellOut, List.map_cons, String.join_cons, List.forall_mem_cons] at ih ⊢
      rw [String.append_eq_empty_iff, ih]

namespace Paradigm

namespace Cell

/-- What a cell shows if the marker stands for gaps and for nothing else. -/
def marked (marker : String) (c : Cell) : String :=
  if c.isGap then marker else c.spellOut.getD ""

/-- Whether items are inserted, and none of them has a form to be seen. -/
def Silent : Cell → Prop
  | excluded => False
  | realised _ items => items ≠ [] ∧ ∀ i ∈ items, i.form = ""

instance : DecidablePred Silent
  | excluded => inferInstanceAs (Decidable False)
  | realised _ items => inferInstanceAs (Decidable (items ≠ [] ∧ ∀ i ∈ items, i.form = ""))

variable (marker : String)

theorem marked_of_silent {c : Cell} (h : c.Silent) : c.marked marker = "" := by
  cases c with
  | excluded => exact h.elim
  | realised name items =>
      obtain ⟨hne, hforms⟩ := h
      have hgap : (realised name items).isGap = false := List.isEmpty_eq_false_iff.mpr hne
      have hempty : (realised name items).spellOut = some "" :=
        congrArg some (Item.spellOut_eq_empty_iff.mpr hforms)
      rw [marked, hgap, hempty]
      rfl

theorem shown_eq_ite (c : Cell) :
    c.shown marker = if c.Silent then marker else c.marked marker := by
  cases c with
  | excluded => rfl
  | realised name items =>
      by_cases hforms : ∀ i ∈ items, i.form = ""
      · -- There is no text: either there are no items, or they are silent.
        have htext := Item.spellOut_eq_empty_iff.mpr hforms
        cases items with
        | nil => simp [shown, spellOut, marked, isGap, Silent, Item.spellOut]
        | cons i items =>
            have hsilent : (realised name (i :: items)).Silent := ⟨List.cons_ne_nil _ _, hforms⟩
            rw [if_pos hsilent]
            simp [shown, spellOut, htext]
      · have htext := mt Item.spellOut_eq_empty_iff.mp hforms
        have hne : items ≠ [] := by
          rintro rfl
          exact hforms (by simp)
        simp [shown, spellOut, htext, Silent, hforms, marked, isGap, hne]

/-- The marker is in the right place unless it can be seen in a silent cell. -/
theorem shown_eq_marked_iff (c : Cell) :
    c.shown marker = c.marked marker ↔ marker = "" ∨ ¬ c.Silent := by
  rw [shown_eq_ite]
  by_cases h : c.Silent
  · simp [h, marked_of_silent marker h]
  · simp [h]

end Cell

/-- The cells of a line after the subject, if the marker stands for gaps and for nothing else. -/
def Row.marked (marker : String) (r : Row) : List String :=
  r.subject.text :: r.cells.map (Cell.marked marker)

theorem table_rows_eq_marked_iff (p : Paradigm) (marker : String) :
    (p.table marker).rows = p.rows.map (Row.marked marker) ↔
      marker = "" ∨ ∀ row ∈ p.rows, ∀ c ∈ row.cells, ¬ c.Silent := by
  simp only [table, Row.marked, List.map_inj_left, List.cons.injEq, true_and,
    Cell.shown_eq_marked_iff]
  by_cases h : marker = ""
  · simp [h]
  · simp [h]

end Paradigm

namespace Grammar

open Paradigm

variable (g : Grammar) (alignment : Alignment) (marker : String)

theorem header_length :
    ((g.cells alignment).table marker).header.length =
      2 + if g.transitive = true then g.arguments.length else 0 := by
  cases h : g.transitive with
  | true =>
      simp only [table, cells, h, if_true, List.length_cons, List.length_map]
      omega
  | false => simp [table, cells, h]

theorem entries_length {entries : List String}
    (hentries : entries ∈ ((g.cells alignment).table marker).rows) :
    entries.length = ((g.cells alignment).table marker).header.length := by
  rw [header_length]
  simp only [table, cells, List.map_map, List.mem_map] at hentries
  obtain ⟨subject, -, rfl⟩ := hentries
  cases h : g.transitive with
  | true =>
      simp only [Function.comp_apply, Row.cells, cellRow, objects, h, if_true, List.length_cons,
        List.length_map]
      omega
  | false => simp [Row.cells, cellRow, objects, h]

/-- A table has a line for each subject and a column for each position. A gap shows the marker and
so does a silent cell, and no other one; so the marker stands for the gaps exactly if it is blank or
there are no silent cells. -/
theorem table_marks_gaps_and_silent_cells :
    ∃ p, (g.buildParadigm alignment).value = .ok p ∧
      (p.table marker).rows.length = p.rows.length ∧
      (p.table marker).header.length = (2 + if g.transitive = true then p.arguments.length else 0) ∧
      (∀ entries ∈ (p.table marker).rows, entries.length = (p.table marker).header.length) ∧
      (∀ (i : Nat) (row : Row), p.rows[i]? = some row →
        ∃ entries, (p.table marker).rows[i]? = some entries ∧
          entries[0]? = some row.subject.text ∧
          (∃ c, p.cell? row.subject none = some c ∧
            entries[1]? = some (if c.Silent then marker else c.marked marker)) ∧
          ∀ j object, g.transitive = true → p.arguments[j]? = some object →
            ∃ c, p.cell? row.subject (some object) = some c ∧
              entries[2 + j]? = some (if c.Silent then marker else c.marked marker)) ∧
      ((p.table marker).rows = p.rows.map (Row.marked marker) ↔
        marker = "" ∨ ∀ row ∈ p.rows, ∀ c ∈ row.cells, ¬ c.Silent) := by
  refine ⟨g.cells alignment, g.buildParadigm_value alignment, by simp [table],
    g.header_length alignment marker, fun _ => g.entries_length alignment marker, ?_,
    table_rows_eq_marked_iff _ marker⟩
  intro i row hrow
  obtain ⟨subject, hsubject, rfl⟩ : ∃ s ∈ g.arguments, g.cellRow alignment s = row :=
    List.mem_map.mp (List.mem_of_getElem? hrow)
  refine ⟨subject.text :: (g.cellRow alignment subject).cells.map (Cell.shown marker), ?_, rfl,
    ⟨g.soleCell alignment subject, ?_, ?_⟩, ?_⟩
  · simp only [table, List.getElem?_map, hrow, Option.map_some]
    rfl
  · exact (g.cell?_none alignment subject).trans (if_pos hsubject)
  · exact congrArg some (Cell.shown_eq_ite marker _)
  · intro j object ht hobject
    have hmem : object ∈ g.arguments := List.mem_of_getElem? hobject
    refine ⟨g.pairCell alignment subject object, ?_, ?_⟩
    · exact (g.cell?_some alignment subject object).trans (if_pos ⟨ht, hsubject, hmem⟩)
    · have hcolumn : g.objects[j]? = some object := by
        rw [objects, if_pos ht]
        exact hobject
      rw [Nat.add_comm, ← Cell.shown_eq_ite]
      simp [Row.cells, cellRow, hcolumn]

/-- One item that is inserted everywhere and has no form. -/
def zeroMorph : Grammar where
  name := "Zero"
  lexicon := [⟨"", .empty⟩]

/-- The marker does not stand for gaps alone: it is also shown where a silent item is inserted. -/
theorem zeroMorph_shows_marker :
    ∃ p : Paradigm, (zeroMorph.buildParadigm .accusative).value = .ok p ∧
      ∃ row, p.rows[0]? = some row ∧
        row.intransitive.isGap = false ∧ row.intransitive.spellOut = some "" ∧
        (p.table "0").rows[0]? = some ["1s", "0"] :=
  ⟨_, buildParadigm_value _ _, _, rfl, by decide, by decide, by decide⟩

end Grammar

end Agreement
