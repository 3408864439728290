import Mathlib.Data.List.Nodup
import Agreement.Proofs.Bundle

/-!
# Slots

A feature fills a slot, that of the case or that of its attribute. A list of features makes a bundle
if no two of them fill the same slot, and the bundle then holds exactly the listed features.
-/

namespace Agreement

/-- The attribute whose slot a feature fills, or none for the slot of the case. -/
def Feature.slot : Feature → Option Attribute
  | case _ => none
  | signed a _ => some a

namespace Bundle

variable {b c : Bundle} {f g : Feature} {fs : List Feature}

theorem occupies_iff : b.occupies f = true ↔ ∃ g ∈ b, g.slot = f.slot := by
  cases f with
  | case l =>
      rw [occupies, Option.isSome_iff_exists]
      constructor
      · rintro ⟨l', hl'⟩
        exact ⟨.case l', case_mem_iff.mpr hl', rfl⟩
      · rintro ⟨g, hg, hslot⟩
        cases g with
        | case l' => exact ⟨l', case_mem_iff.mp hg⟩
        | signed a s => cases hslot
  | signed a s =>
      rw [occupies, Option.isSome_iff_exists]
      constructor
      · rintro ⟨s', hs'⟩
        exact ⟨.signed a s', signed_mem_iff.mpr hs', rfl⟩
      · rintro ⟨g, hg, hslot⟩
        cases g with
        | case l' => cases hslot
        | signed a' s' =>
            cases hslot
            exact ⟨s', signed_mem_iff.mp hg⟩

theorem occupies_eq_false_iff : b.occupies f = false ↔ ∀ g ∈ b, g.slot ≠ f.slot := by
  rw [Bool.eq_false_iff, Ne, occupies_iff]
  simp only [not_exists, not_and, ne_eq]

/-- A feature put into its slot replaces what filled the slot before. -/
theorem mem_insert : g ∈ b.insert f ↔ g = f ∨ g ∈ b ∧ g.slot ≠ f.slot := by
  cases f with
  | case l =>
      cases g with
      | case l' => simp [insert, case_mem_iff, Feature.slot, eq_comm]
      | signed a s => simp [insert, signed_mem_iff, Feature.slot, sign]
  | signed a s =>
      cases g with
      | case l' => simp [insert, case_mem_iff, case_setSign, Feature.slot]
      | signed a' s' =>
          simp only [insert, signed_mem_iff, sign_setSign, Feature.slot]
          by_cases h : a' = a
          · simp [h, eq_comm]
          · simp [h]

theorem insert_occupies_eq_false_iff :
    (b.insert f).occupies g = false ↔ f.slot ≠ g.slot ∧ b.occupies g = false := by
  simp only [occupies_eq_false_iff, mem_insert]
  constructor
  · intro h
    have hf : f.slot ≠ g.slot := h f (Or.inl rfl)
    refine ⟨hf, fun d hd => ?_⟩
    by_cases hslot : d.slot = f.slot
    · exact hslot ▸ hf
    · exact h d (Or.inr ⟨hd, hslot⟩)
  · rintro ⟨hf, hb⟩ d (rfl | ⟨hd, -⟩)
    · exact hf
    · exact hb d hd

theorem not_mem_empty : f ∉ empty := by
  cases f with
  | case l => simp [case_mem_iff, empty]
  | signed a s => cases a <;> simp [signed_mem_iff, sign, empty]

/-! ## Lists of features -/

/-- Whether no feature of a list fills the slot of another one, or one that is filled in the bundle.
-/
def Fit (b : Bundle) (fs : List Feature) : Prop :=
  (fs.map Feature.slot).Nodup ∧ ∀ f ∈ fs, b.occupies f = false

instance (b : Bundle) (fs : List Feature) : Decidable (b.Fit fs) :=
  inferInstanceAs (Decidable (_ ∧ _))

theorem fit_cons : b.Fit (f :: fs) ↔ b.occupies f = false ∧ (b.insert f).Fit fs := by
  simp only [Fit, insert_occupies_eq_false_iff, List.map_cons, List.nodup_cons, List.forall_mem_cons]
  constructor
  · rintro ⟨⟨hf, hnodup⟩, hfree, hfrees⟩
    refine ⟨hfree, hnodup, fun g hg => ⟨fun heq => hf ?_, hfrees g hg⟩⟩
    exact heq ▸ List.mem_map_of_mem hg
  · rintro ⟨hfree, hnodup, hfs⟩
    refine ⟨⟨fun hmem => ?_, hnodup⟩, hfree, fun g hg => (hfs g hg).2⟩
    obtain ⟨g, hg, heq⟩ := List.mem_map.mp hmem
    exact (hfs g hg).1 heq.symm

theorem addAll_eq_ite (b : Bundle) (fs : List Feature) :
    b.addAll fs = if b.Fit fs then some (fs.foldl insert b) else none := by
  induction fs generalizing b with
  | nil => simp [addAll, Fit]
  | cons f fs ih =>
      rw [addAll, ih, List.foldl_cons]
      simp only [fit_cons]
      cases b.occupies f <;> simp

/-- No feature is lost where the slots are free. -/
theorem mem_foldl_insert (h : b.Fit fs) : g ∈ fs.foldl insert b ↔ g ∈ b ∨ g ∈ fs := by
  induction fs generalizing b with
  | nil => simp
  | cons f fs ih =>
      obtain ⟨hf, hfs⟩ := fit_cons.mp h
      have hkept : g ∈ b → g.slot ≠ f.slot := occupies_eq_false_iff.mp hf g
      rw [List.foldl_cons, ih hfs, mem_insert, List.mem_cons]
      constructor
      · rintro ((rfl | ⟨hg, -⟩) | hg)
        · exact Or.inr (Or.inl rfl)
        · exact Or.inl hg
        · exact Or.inr (Or.inr hg)
      · rintro (hg | rfl | hg)
        · exact Or.inl (Or.inr ⟨hg, hkept hg⟩)
        · exact Or.inl (Or.inl rfl)
        · exact Or.inr hg

theorem fit_empty_iff : empty.Fit fs ↔ (fs.map Feature.slot).Nodup := by
  refine and_iff_left fun f _ => ?_
  rw [occupies_eq_false_iff]
  exact fun g hg => absurd hg not_mem_empty

theorem mem_of (h : (fs.map Feature.slot).Nodup) : f ∈ of fs ↔ f ∈ fs := by
  rw [of, mem_foldl_insert (fit_empty_iff.mpr h), or_iff_right not_mem_empty]

/-- A list of features is a bundle exactly if no two of them fill the same slot. -/
theorem ofFeatures_eq_ite (fs : List Feature) :
    ofFeatures fs =
      if (fs.map Feature.slot).Nodup then .ok (of fs)
      else .error (.duplicateAttribute (" ".intercalate (fs.map Feature.text))) := by
  rw [ofFeatures, ofList?, addAll_eq_ite]
  by_cases h : empty.Fit fs
  · rw [if_pos h, if_pos (fit_empty_iff.mp h)]
    rfl
  · rw [if_neg h, if_neg (mt fit_empty_iff.mpr h)]

theorem ofFeatures_eq_ok_iff {fs : List Feature} {b : Bundle} :
    ofFeatures fs = .ok b ↔ (fs.map Feature.slot).Nodup ∧ ∀ f, f ∈ b ↔ f ∈ fs := by
  rw [ofFeatures_eq_ite]
  by_cases hslots : (fs.map Feature.slot).Nodup
  · rw [if_pos hslots, Except.ok.injEq, and_iff_right hslots]
    constructor
    · rintro rfl
      exact fun f => mem_of hslots
    · exact fun hmem => ext_mem fun f => (mem_of hslots).trans (hmem f).symm
  · rw [if_neg hslots]
    exact ⟨nofun, fun h => absurd h.1 hslots⟩

theorem nodup_slots_features (b : Bundle) : (b.features.map Feature.slot).Nodup := by
  have hsigned : ∀ as : List Attribute,
      (as.filterMap fun a => (b.sign a).map (Feature.signed a)).map Feature.slot =
        (as.filter fun a => (b.sign a).isSome).map some := by
    intro as
    induction as with
    | nil => rfl
    | cons a as ih => cases h : b.sign a <;> simp [h, ih, Feature.slot]
  have hnodup : ((Attribute.all.filter fun a => (b.sign a).isSome).map some).Nodup :=
    List.Nodup.map (fun _ _ => Option.some.inj) (List.Nodup.filter _ (by decide))
  rw [features, List.map_append, hsigned]
  cases b.case with
  | none => exact hnodup
  | some l =>
      refine List.nodup_cons.mpr ⟨fun h => ?_, hnodup⟩
      obtain ⟨a, -, ha⟩ := List.mem_map.mp h
      cases ha

theorem features_nodup (b : Bundle) : b.features.Nodup :=
  b.nodup_slots_features.of_map _

/-- The features of a bundle stand in the order of all features. -/
theorem features_sublist_all (b : Bundle) : b.features.Sublist Feature.all := by
  have hcase : (b.case.map Feature.case).toList.Sublist (Case.all.map .case) := by
    cases b.case with
    | none => exact List.nil_sublist _
    | some l => cases l <;> decide
  have hsigned : ∀ as : List Attribute,
      (as.filterMap fun a => (b.sign a).map (Feature.signed a)).Sublist
        (as.flatMap fun a => Sign.all.map (.signed a)) := by
    intro as
    induction as with
    | nil => exact List.nil_sublist _
    | cons a as ih =>
        rw [List.flatMap_cons]
        cases h : b.sign a with
        | none =>
            rw [List.filterMap_cons_none (by rw [h]; rfl)]
            exact ih.trans (List.sublist_append_right _ _)
        | some s =>
            have hs : [Feature.signed a s].Sublist (Sign.all.map (.signed a)) := by
              cases s <;> simp [Sign.all]
            rw [List.filterMap_cons_some (by rw [h]; rfl)]
            exact hs.append ih
  exact hcase.append (hsigned Attribute.all)

/-- The features of a bundle make that bundle. -/
theorem ofFeatures_features (b : Bundle) : ofFeatures b.features = .ok b :=
  ofFeatures_eq_ok_iff.mpr ⟨b.nodup_slots_features, fun _ => mem_features.symm⟩

end Bundle

end Agreement
