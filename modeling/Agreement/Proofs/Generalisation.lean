import Agreement.Proofs.Insertion
import Agreement.Proofs.Paradigm

/-!
# Adding rules broadens a paradigm

More rules delete more features, so each item asks for less after them than before. No item is lost
from a cell, whatever the rules and their order, and the shape of the paradigm stays.
-/

namespace Agreement

namespace Grammar

variable (g : Grammar) (more : List Rule) (cell : Structure)

/-! ## One cell -/

/-- The rules of a grammar fire among more rules where they fired without them. -/
theorem extend_covers : (g.extend more).Covers cell g cell where
  lexicon_eq := rfl
  satisfies := Structure.satisfies_of_subset (List.Subset.refl _)
  deletions_subset := by
    rw [extend, deletions, deletions, List.filter_append, List.map_append]
    exact List.subset_append_left _ _

/-! ## Whole paradigms -/

open Paradigm

/-- What becomes of a position as the grammar `g` is extended to `h`. An excluded one stays so; a
realised one keeps its cell string and every item, with its form and a weaker meaning. -/
def Broadens (g h : Grammar) (alignment : Alignment) : Cell → Cell → Prop
  | .excluded, .excluded => True
  | .realised name items, .realised name' items' =>
      name' = name ∧ (items' = [] → items = []) ∧
        (items.map Item.form).Sublist (items'.map Item.form) ∧
        ∃ cell, Structure.readCell alignment name = .ok cell ∧
          items = (g.insertions cell).map Prod.fst ∧
          items' = (h.insertions cell).map Prod.fst ∧
          ((g.insertions cell).map Prod.snd).Sublist ((h.insertions cell).map Prod.snd) ∧
          ∀ i n, (i, n) ∈ g.insertions cell →
            ∃ i', (i', n) ∈ h.insertions cell ∧ i'.form = i.form ∧
              List.Forall₂ (fun b b' => b' ⊆ b) i.meaning.bundles i'.meaning.bundles
  | _, _ => False

variable (alignment : Alignment)

theorem broadens_extend {name : String} {cell : Structure}
    (hcell : Structure.readCell alignment name = .ok cell) :
    Broadens g (g.extend more) alignment (.realised name (g.inserted cell))
      (.realised name ((g.extend more).inserted cell)) :=
  have hcov := g.extend_covers more cell
  ⟨rfl, hcov.inserted_eq_nil, hcov.forms_sublist, cell, hcell,
    (g.map_fst_insertions cell).symm, ((g.extend more).map_fst_insertions cell).symm,
    hcov.positions_sublist, fun _ _ h => hcov.exists_mem_insertions h⟩

theorem pairCell_broadens (subject object : Argument) :
    Broadens g (g.extend more) alignment (g.pairCell alignment subject object)
      ((g.extend more).pairCell alignment subject object) := by
  unfold pairCell
  split
  · trivial
  · exact g.broadens_extend more alignment (Structure.readCell_texts alignment subject object)

/-- Adding rules keeps the arguments, the subjects, the excluded positions and the cell strings of a
paradigm, and it loses no item anywhere. The grammar is a part of the extended one. -/
theorem buildParadigm_extend_broadens :
    ∃ p q, (g.buildParadigm alignment).value = .ok p ∧
      ((g.extend more).buildParadigm alignment).value = .ok q ∧
      q.arguments = p.arguments ∧
      List.Forall₂ (fun row row' => row'.subject = row.subject ∧
          List.Forall₂ (Broadens g (g.extend more) alignment) row.cells row'.cells)
        p.rows q.rows ∧
      { g.extend more with rules := (g.extend more).rules.take g.rules.length } = g := by
  refine ⟨g.cells alignment, (g.extend more).cells alignment, g.buildParadigm_value alignment,
    (g.extend more).buildParadigm_value alignment, rfl, ?_, ?_⟩
  · have harguments : (g.extend more).arguments = g.arguments := rfl
    rw [cells, cells, harguments, List.forall₂_map_left_iff, List.forall₂_map_right_iff,
      List.forall₂_same]
    intro subject _
    refine ⟨rfl, .cons ?_ ?_⟩
    · exact g.broadens_extend more alignment (Structure.readCell_text alignment subject)
    · have hobjects : (g.extend more).objects = g.objects := rfl
      rw [cellRow, cellRow, hobjects, List.forall₂_map_left_iff, List.forall₂_map_right_iff,
        List.forall₂_same]
      exact fun object _ => g.pairCell_broadens more alignment subject object
  · simp [extend]

end Grammar

end Agreement
