import Mathlib.Data.Finset.Card
import Agreement.Proofs.Slots

/-!
# Bundles as finite maps

A bundle stands for the finite set of its features. No two of them share a slot, so the set is a
finite map from slots to values. Edits change the set as they would change such a map, one after
another, and the set answers all that is asked of the bundle.
-/

namespace Agreement

theorem Feature.all_nodup : Feature.all.Nodup := by decide

namespace Bundle

variable {b : Bundle} {f : Feature}

/-- The set of the features of a bundle. -/
def featureSet (b : Bundle) : Finset Feature :=
  b.features.toFinset

@[simp]
theorem mem_featureSet : f ∈ b.featureSet ↔ f ∈ b := by
  rw [featureSet, List.mem_toFinset, mem_features]

/-! ## Edits -/

/-- An operation that changes a bundle. -/
inductive Edit where
  | insert (f : Feature)
  | without (deleted : Bundle)

def edit (b : Bundle) : Edit → Bundle
  | .insert f => b.insert f
  | .without deleted => b.without deleted

/-- What an edit does to a set of features: a feature displaces whatever has its slot, and a deletion
takes out the listed features but no other values of their slots. -/
def editSet (s : Finset Feature) : Edit → Finset Feature
  | .insert f => Insert.insert f (s.filter fun g => g.slot ≠ f.slot)
  | .without deleted => s \ deleted.featureSet

theorem featureSet_edit (b : Bundle) (e : Edit) :
    (b.edit e).featureSet = editSet b.featureSet e := by
  ext g
  cases e with
  | insert f =>
      rw [edit, editSet, Finset.mem_insert, Finset.mem_filter, mem_featureSet, mem_featureSet]
      exact mem_insert
  | without deleted =>
      rw [edit, editSet, Finset.mem_sdiff, mem_featureSet, mem_featureSet, mem_featureSet]
      exact mem_without

theorem featureSet_foldl_edit (b : Bundle) (es : List Edit) :
    (es.foldl edit b).featureSet = es.foldl editSet b.featureSet := by
  induction es generalizing b with
  | nil => rfl
  | cons e es ih => rw [List.foldl_cons, List.foldl_cons, ih, featureSet_edit]

/-! ## Queries -/

theorem slot_injOn (b : Bundle) : Set.InjOn Feature.slot (b.featureSet : Set Feature) := by
  intro f hf g hg hslot
  rw [Finset.mem_coe, mem_featureSet, ← mem_features] at hf hg
  exact List.inj_on_of_nodup_map b.nodup_slots_features hf hg hslot

/-- The features of a bundle are those of all features that belong to it, in the same order. -/
theorem features_eq_filter (b : Bundle) :
    b.features = Feature.all.filter fun f => f ∈ b.featureSet := by
  have hmem : ∀ f, f ∈ b.features ↔ f ∈ b.featureSet := fun _ => List.mem_toFinset.symm
  have hsub : b.features.Sublist (Feature.all.filter fun f => f ∈ b.featureSet) := by
    have hself : b.features.filter (fun f => f ∈ b.featureSet) = b.features :=
      List.filter_eq_self.mpr fun f hf => decide_eq_true ((hmem f).mp hf)
    exact hself ▸ b.features_sublist_all.filter _
  -- Neither list repeats a feature, so they are of one length if no member is missing.
  refine hsub.eq_of_length_le (List.Subperm.length_le ?_)
  refine List.subperm_of_subset (Feature.all_nodup.filter _) fun f hf => ?_
  exact (hmem f).mpr (of_decide_eq_true (List.mem_filter.mp hf).2)

/-- The features of a bundle are those of this set, which answers all that is asked of the bundle. -/
structure Answers (b : Bundle) (s : Finset Feature) : Prop where
  featureSet : b.featureSet = s
  oneForEachSlot : Set.InjOn Feature.slot (s : Set Feature)
  nodup : b.features.Nodup
  features : b.features = Feature.all.filter fun f => f ∈ s
  size : b.size = s.card
  isEmpty : b.isEmpty = true ↔ s = ∅
  contains : ∀ f, b.contains f = true ↔ f ∈ s
  case : ∀ l, b.case = some l ↔ .case l ∈ s
  sign : ∀ a v, b.sign a = some v ↔ .signed a v ∈ s
  within : ∀ c, b.within c = true ↔ s ⊆ c.featureSet

theorem answers_featureSet (b : Bundle) : b.Answers b.featureSet where
  featureSet := rfl
  oneForEachSlot := b.slot_injOn
  nodup := b.features_nodup
  features := b.features_eq_filter
  size := (List.toFinset_card_of_nodup b.features_nodup).symm
  isEmpty := by simp only [isEmpty_iff, Finset.eq_empty_iff_forall_notMem, mem_featureSet]
  contains f := contains_iff.trans mem_featureSet.symm
  case l := case_mem_iff.symm.trans mem_featureSet.symm
  sign a v := signed_mem_iff.symm.trans mem_featureSet.symm
  within c := by simp only [within_iff, subset_iff, Finset.subset_iff, mem_featureSet]

/-- The bundle after each of several edits, against the set after the same ones. -/
theorem answers_scanl_edit (b : Bundle) (es : List Edit) :
    List.Forall₂ Answers (es.scanl edit b) (es.scanl editSet b.featureSet) := by
  refine List.forall₂_iff_get.mpr ⟨?_, fun n hb hs => ?_⟩
  · rw [List.length_scanl, List.length_scanl]
  · -- What stands at position `n` is what the first `n` edits make.
    rw [List.get_eq_getElem, List.get_eq_getElem, List.getElem_scanl, List.getElem_scanl,
      ← featureSet_foldl_edit]
    exact answers_featureSet _

/-- Whatever edits are made to a bundle, the set of its features is what they make of the set of the
features that it had at first. All the way no two features share a slot, and the bundle lists them
once each in printing order, counts them, finds them by slot and compares them as the set does. -/
theorem edits_implement_slot_map (b : Bundle) (es : List Edit) :
    (es.foldl edit b).featureSet = es.foldl editSet b.featureSet ∧
    List.Forall₂ Answers (es.scanl edit b) (es.scanl editSet b.featureSet) :=
  ⟨b.featureSet_foldl_edit es, b.answers_scanl_edit es⟩

/-- A deletion of `+pl` leaves `-pl` in place; `+pl` itself displaces it. -/
example :
    let b : Bundle := of [.minus .plural, .case .absolutive]
    ([.without (of [.plus .plural]), .insert (.plus .plural)].scanl edit b).map features =
      [[.case .absolutive, .minus .plural], [.case .absolutive, .minus .plural],
        [.case .absolutive, .plus .plural]] := by
  decide

end Bundle

end Agreement
