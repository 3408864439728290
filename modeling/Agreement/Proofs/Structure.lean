import Mathlib.Data.List.Forall2
import Agreement.Proofs.Bundle
import Agreement.Structure.Basic

/-!
# Conditions and what weakens them

A cell satisfies a condition if each bundle of the condition is part of some bundle of the cell. A
condition whose bundles are smaller, one by one, asks for less.
-/

namespace Agreement.Structure

variable {cell c d m : Structure}

theorem satisfies_iff :
    cell.satisfies c = true ↔ ∀ wanted ∈ c.bundles, ∃ given ∈ cell.bundles, wanted ⊆ given := by
  simp only [satisfies, List.all_eq_true, List.any_eq_true, Bundle.within_iff]

/-- A cell satisfies every condition that holds of a cell with less information. -/
theorem satisfies_trans (hc : d.satisfies c = true) (hm : c.satisfies m = true) :
    d.satisfies m = true := by
  rw [satisfies_iff] at hc hm ⊢
  intro wanted hwanted
  obtain ⟨given, hgiven, hsub⟩ := hm wanted hwanted
  obtain ⟨given', hgiven', hsub'⟩ := hc given hgiven
  exact ⟨given', hgiven', Bundle.subset_trans hsub hsub'⟩

theorem satisfies_of_subset (h : c.bundles ⊆ d.bundles) : d.satisfies c = true := by
  rw [satisfies_iff]
  exact fun b hb => ⟨b, h hb, fun _ hf => hf⟩

theorem satisfies_refl (c : Structure) : c.satisfies c = true :=
  satisfies_of_subset (List.Subset.refl _)

/-- Two structures with equally many bundles, those of the second one part of those of the first. -/
def Weakens (c d : Structure) : Prop :=
  List.Forall₂ (fun b b' => b' ⊆ b) c.bundles d.bundles

/-- A cell that satisfies a condition satisfies every weaker one. -/
theorem Weakens.satisfies (h : c.Weakens d) (hc : cell.satisfies c = true) :
    cell.satisfies d = true := by
  obtain ⟨bs⟩ := c
  obtain ⟨bs'⟩ := d
  rw [satisfies_iff] at hc ⊢
  unfold Weakens at h
  dsimp only at h hc ⊢
  induction h with
  | nil => simp
  | cons hb _ ih =>
      rw [List.forall_mem_cons] at hc ⊢
      obtain ⟨⟨given, hgiven, hsub⟩, hrest⟩ := hc
      exact ⟨⟨given, hgiven, Bundle.subset_trans hb hsub⟩, ih hrest⟩

end Agreement.Structure
