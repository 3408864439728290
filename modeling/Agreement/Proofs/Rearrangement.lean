import Agreement.Proofs.Catalogue
import Agreement.Proofs.Paradigm

/-!
# Rearranging the rules

What the rules of a grammar do depends on nothing but the features that they delete in each context.
Their order makes no difference, nor do repetitions, rules without a deletion, and the way in which
the deletions of one context are shared out among rules.
-/

namespace Agreement.Grammar

/-! ## Deletions by context -/

/-- Whether some rule with exactly this context deletes the feature. -/
def DeletesIn (g : Grammar) (context : Structure) (f : Feature) : Prop :=
  ∃ r ∈ g.rules, r.context = context ∧ f ∈ r.deleted

/-- Whether the rules of two grammars delete the same features in each context. -/
def SameDeletions (g h : Grammar) : Prop :=
  ∀ context f, g.DeletesIn context f ↔ h.DeletesIn context f

variable {g h : Grammar}

theorem deletes_iff_deletesIn {cell : Structure} {f : Feature} :
    g.Deletes cell f ↔ ∃ context, cell.satisfies context = true ∧ g.DeletesIn context f := by
  simp only [Deletes, DeletesIn, ← Structure.satisfies_iff]
  constructor
  · rintro ⟨r, hr, hf, hfires⟩
    exact ⟨r.context, hfires, r, hr, rfl, hf⟩
  · rintro ⟨_, hfires, r, hr, rfl, hf⟩
    exact ⟨r, hr, hf, hfires⟩

/-- It is enough to look for each deletion of one grammar among the rules of the other one. -/
theorem sameDeletions_iff :
    g.SameDeletions h ↔
      (∀ r ∈ g.rules, ∀ f ∈ r.deleted, h.DeletesIn r.context f) ∧
        ∀ r ∈ h.rules, ∀ f ∈ r.deleted, g.DeletesIn r.context f := by
  constructor
  · intro hsame
    exact ⟨fun r hr f hf => (hsame r.context f).mp ⟨r, hr, rfl, hf⟩,
      fun r hr f hf => (hsame r.context f).mpr ⟨r, hr, rfl, hf⟩⟩
  · rintro ⟨hgh, hhg⟩ context f
    constructor
    · rintro ⟨r, hr, rfl, hf⟩
      exact hgh r hr f hf
    · rintro ⟨r, hr, rfl, hf⟩
      exact hhg r hr f hf

instance (g : Grammar) (context : Structure) (f : Feature) : Decidable (g.DeletesIn context f) :=
  inferInstanceAs (Decidable (∃ r ∈ g.rules, r.context = context ∧ f ∈ r.deleted))

instance (g h : Grammar) : Decidable (g.SameDeletions h) :=
  decidable_of_iff _ sameDeletions_iff.symm

/-! ## Cells -/

theorem SameDeletions.deletes_iff (hsame : g.SameDeletions h) (cell : Structure) (f : Feature) :
    g.Deletes cell f ↔ h.Deletes cell f := by
  rw [deletes_iff_deletesIn, deletes_iff_deletesIn]
  exact exists_congr fun context => and_congr_right fun _ => hsame context f

/-- Two lexicons that are the same stay so, if the same ones of their features are deleted. -/
theorem generalised_congr (hlexicon : g.lexicon = h.lexicon) {cell : Structure}
    (hdeletes : ∀ i ∈ g.lexicon, ∀ b ∈ i.meaning.bundles, ∀ f ∈ b,
      (g.Deletes cell f ↔ h.Deletes cell f)) : g.generalised cell = h.generalised cell := by
  rw [generalised, generalised, hlexicon]
  refine List.map_congr_left fun i hi => ?_
  rw [← hlexicon] at hi
  have hbundles : i.meaning.bundles.map (·.withoutAll (deletions cell g.rules)) =
      i.meaning.bundles.map (·.withoutAll (deletions cell h.rules)) := by
    refine List.map_congr_left fun b hb => Bundle.ext_mem fun f => ?_
    rw [mem_withoutAll_deletions, mem_withoutAll_deletions]
    exact and_congr_right fun hf => not_congr (hdeletes i hi b hb f hf)
  simp only [Item.withoutAll, hbundles]

theorem SameDeletions.generalised_eq (hsame : g.SameDeletions h) (hlexicon : g.lexicon = h.lexicon)
    (cell : Structure) : g.generalised cell = h.generalised cell :=
  generalised_congr hlexicon fun _ _ _ _ f _ => hsame.deletes_iff cell f

theorem SameDeletions.inserted_eq (hsame : g.SameDeletions h) (hlexicon : g.lexicon = h.lexicon)
    (cell : Structure) : g.inserted cell = h.inserted cell := by
  rw [inserted, inserted, hsame.generalised_eq hlexicon]

/-! ## Paradigms -/

theorem draw_value (g : Grammar) (alignment : Alignment) :
    (g.draw alignment).value = .ok ((g.cells alignment).table "").render := by
  rw [draw, Logged.value_bind, buildParadigm_value]
  rfl

/-- A paradigm is determined by the switches of its grammar and what is inserted into each cell. -/
theorem cells_congr (hdual : g.dual = h.dual) (hinclusive : g.inclusive = h.inclusive)
    (htransitive : g.transitive = h.transitive)
    (hinserted : ∀ cell, g.inserted cell = h.inserted cell) (alignment : Alignment) :
    g.cells alignment = h.cells alignment :=
  cells_eq_of_inserted_eq hdual hinclusive htransitive (fun _ => hinserted _) fun _ _ => hinserted _

/-- Two grammars with the same lexicon and switches whose rules delete the same features in each
context cannot be told apart by what they realise: every observer is shown the same items after all
rules and the same items to insert, and the paradigms and their drawings are the same. -/
theorem realisation_eq_of_sameDeletions (hlexicon : g.lexicon = h.lexicon)
    (hdual : g.dual = h.dual) (hinclusive : g.inclusive = h.inclusive)
    (htransitive : g.transitive = h.transitive)
    (hrules : ∀ context f,
      (∃ r ∈ g.rules, r.context = context ∧ f ∈ r.deleted) ↔
        ∃ r ∈ h.rules, r.context = context ∧ f ∈ r.deleted) :
    (∀ cell : Structure, ∃ generalised found, ∀ k ∈ [g, h], ∀ (σ : Type) (o : Observer σ) (s : σ),
      (k.realiseWith cell (o.both .recorder) (s, [])).value.2.2.filterMap Stage.generalised? =
        [generalised] ∧
      (k.realiseWith cell (o.both .recorder) (s, [])).value.2.2.filterMap Stage.matched? =
        [found] ∧
      (k.realiseWith cell o s).value.1 = found ∧
      (k.realise cell).value = found) ∧
    ∀ alignment,
      (g.buildParadigm alignment).value = (h.buildParadigm alignment).value ∧
      ∃ text, (g.draw alignment).value = .ok text ∧ (h.draw alignment).value = .ok text := by
  have hsame : g.SameDeletions h := hrules
  have hinserted := hsame.inserted_eq hlexicon
  have hcells := cells_congr hdual hinclusive htransitive hinserted
  constructor
  · intro cell
    refine ⟨g.generalised cell, g.inserted cell, fun k hk σ o s => ?_⟩
    obtain ⟨hshown, hfound⟩ :
        k.generalised cell = g.generalised cell ∧ k.inserted cell = g.inserted cell := by
      rcases List.mem_pair.mp hk with rfl | rfl
      · exact ⟨rfl, rfl⟩
      · exact ⟨(hsame.generalised_eq hlexicon cell).symm, (hinserted cell).symm⟩
    simp only [realiseWith_value, realise_value, Observer.both_after, Observer.recorder_after,
      List.nil_append, stages_generalised, stages_matched, hshown, hfound, and_self]
  · intro alignment
    refine ⟨?_, _, g.draw_value alignment, ?_⟩
    · rw [buildParadigm_value, buildParadigm_value, hcells]
    · rw [draw_value, hcells]

/-- Negative Karuk with its rules in another order, one of them twice, one in two parts, and one
that deletes nothing. -/
def karukRearranged : Grammar :=
  open Catalogue Feature in
  { Catalogue.karuk with
    name := "Karuk, rearranged"
    rules := [
      rule [plus .person2] [[nom, plus .person3]],
      rule [] [[nom, plus .person1]],
      rule [acc] [[nom, plus .person3]],
      rule [acc, plus .person2] [[nom, minus .person1], [minus .person3, plus .plural]],
      rule [plus .plural] [[nom, plus .person3], [acc, plus .person2]],
      rule [plus .person2] [[nom, plus .person3]]] }

theorem karukRearranged_eq_karukNegative :
    Catalogue.karukNegative.SameDeletions karukRearranged ∧
    ¬ Catalogue.karukNegative.rules.Perm karukRearranged.rules ∧
    (∀ alignment, (Catalogue.karukNegative.buildParadigm alignment).value =
      (karukRearranged.buildParadigm alignment).value) := by
  have hsame : Catalogue.karukNegative.SameDeletions karukRearranged := by decide
  have heq := realisation_eq_of_sameDeletions (g := Catalogue.karukNegative)
    (h := karukRearranged) rfl rfl rfl rfl hsame
  exact ⟨hsame, by decide, fun alignment => (heq.2 alignment).1⟩

end Agreement.Grammar
