import Agreement.Proofs.Rearrangement
import Agreement.Proofs.Slots

/-!
# Deletions without effect

What lint reports can be taken out of a grammar, and no cell is realised differently. What it does
not report has an effect, if only in the cell that the context of the rule describes.
-/

namespace Agreement.Grammar

variable {g : Grammar} {w : Warning} {i : Nat} {r : Rule} {f : Feature}

theorem carries_iff :
    g.carries f = true ↔ ∃ i ∈ g.lexicon, ∃ b ∈ i.meaning.bundles, f ∈ b := by
  simp only [carries, List.any_eq_true, Bundle.contains_iff]

/-! ## Warnings -/

namespace Warning

def rule : Warning → Nat
  | unusedDeletion rule _ => rule
  | emptyDeletion rule => rule

def feature? : Warning → Option Feature
  | unusedDeletion _ f => some f
  | emptyDeletion _ => none

end Warning

theorem mem_lintRule :
    w ∈ g.lintRule i r ↔
      (w = .emptyDeletion i ∧ ∀ f, f ∉ r.deleted) ∨
        ∃ f ∈ r.deleted, g.carries f = false ∧ w = .unusedDeletion i f := by
  unfold lintRule
  split
  · next h =>
      rw [Bundle.isEmpty_iff] at h
      simp [h]
  · next h =>
      rw [Bundle.isEmpty_iff] at h
      rw [List.mem_map]
      constructor
      · rintro ⟨f, hf, rfl⟩
        rw [List.mem_filter, Bundle.mem_features, Bool.not_eq_true'] at hf
        exact Or.inr ⟨f, hf.1, hf.2, rfl⟩
      · rintro (⟨-, hempty⟩ | ⟨f, hf, hcarries, rfl⟩)
        · exact absurd hempty h
        · refine ⟨f, ?_, rfl⟩
          rw [List.mem_filter, Bundle.mem_features, Bool.not_eq_true']
          exact ⟨hf, hcarries⟩

theorem rule_of_mem_lintRule (h : w ∈ g.lintRule i r) : w.rule = i := by
  rcases mem_lintRule.mp h with ⟨rfl, -⟩ | ⟨f, -, -, rfl⟩
  · rfl
  · rfl

theorem mem_lint : w ∈ g.lint ↔ ∃ r, g.rules[w.rule]? = some r ∧ w ∈ g.lintRule w.rule r := by
  simp only [lint, List.mem_flatMap, Prod.exists, List.mem_zipIdx_iff_getElem?]
  constructor
  · rintro ⟨r, i, hr, hw⟩
    obtain rfl := rule_of_mem_lintRule hw
    exact ⟨r, hr, hw⟩
  · rintro ⟨r, hr, hw⟩
    exact ⟨r, w.rule, hr, hw⟩

theorem unusedDeletion_mem_lint :
    .unusedDeletion i f ∈ g.lint ↔
      ∃ r, g.rules[i]? = some r ∧ f ∈ r.deleted ∧ g.carries f = false := by
  simp [mem_lint, mem_lintRule, Warning.rule]

theorem emptyDeletion_mem_lint :
    .emptyDeletion i ∈ g.lint ↔ ∃ r, g.rules[i]? = some r ∧ ∀ f, f ∉ r.deleted := by
  simp [mem_lint, mem_lintRule, Warning.rule]

/-! ### Their order -/

theorem pairwise_lint {R : Warning → Warning → Prop}
    (hrule : ∀ i r, (g.lintRule i r).Pairwise R)
    (hrules : ∀ w w', w.rule < w'.rule → R w w') : g.lint.Pairwise R := by
  have hzip : g.rules.zipIdx.Pairwise fun p q => p.2 < q.2 := by
    refine List.pairwise_map.mp ?_
    rw [List.zipIdx_map_snd]
    exact List.pairwise_lt_range'
  refine List.pairwise_flatMap.mpr ⟨fun p _ => hrule p.2 p.1, hzip.imp fun hpq w hw w' hw' => ?_⟩
  refine hrules w w' ?_
  rw [rule_of_mem_lintRule hw, rule_of_mem_lintRule hw']
  exact hpq

theorem lint_pairwise_rule_le : g.lint.Pairwise fun w w' => w.rule ≤ w'.rule := by
  refine pairwise_lint (fun i r => ?_) fun _ _ h => Nat.le_of_lt h
  refine List.pairwise_of_forall_mem_list fun w hw w' hw' => ?_
  rw [rule_of_mem_lintRule hw, rule_of_mem_lintRule hw']

theorem lint_nodup : g.lint.Nodup := by
  refine pairwise_lint (fun i r => ?_) fun w w' h => ?_
  · unfold lintRule
    split
    · exact List.pairwise_singleton _ _
    · refine List.Nodup.map (fun f f' h => (Warning.unusedDeletion.inj h).2) ?_
      exact r.deleted.features_nodup.filter _
  · rintro rfl
    exact absurd h (Nat.lt_irrefl _)

/-- The warnings about one rule stand together. -/
theorem filter_rule_lint (hr : g.rules[i]? = some r) :
    g.lint.filter (·.rule == i) = g.lintRule i r := by
  -- The rules are split at this one; those before and after it have other indices.
  have hother : ∀ p : Rule × Nat, p.2 ≠ i → (g.lintRule p.2 p.1).filter (·.rule == i) = [] := by
    intro p hp
    rw [List.filter_eq_nil_iff]
    intro w hw
    rw [rule_of_mem_lintRule hw, beq_iff_eq]
    exact hp
  have hself : (g.lintRule i r).filter (·.rule == i) = g.lintRule i r := by
    rw [List.filter_eq_self]
    intro w hw
    rw [rule_of_mem_lintRule hw, beq_self_eq_true]
  obtain ⟨hi, rfl⟩ := List.getElem?_eq_some_iff.mp hr
  have hrules : g.rules = g.rules.take i ++ g.rules[i] :: g.rules.drop (i + 1) := by
    rw [List.getElem_cons_drop, List.take_append_drop]
  have hbefore : ∀ p ∈ (g.rules.take i).zipIdx, p.2 ≠ i := by
    intro p hp
    have hlt := List.snd_lt_of_mem_zipIdx hp
    rw [List.length_take_of_le (Nat.le_of_lt hi)] at hlt
    omega
  have hafter : ∀ p ∈ (g.rules.drop (i + 1)).zipIdx (i + 1), p.2 ≠ i := by
    intro p hp
    have hle := List.le_snd_of_mem_zipIdx hp
    omega
  rw [lint, List.filter_flatMap]
  conv_lhs => rw [hrules]
  rw [List.zipIdx_append, List.flatMap_append, List.zipIdx_cons, List.flatMap_cons,
    List.length_take_of_le (Nat.le_of_lt hi), Nat.zero_add, hself,
    List.flatMap_eq_nil_iff.mpr fun p hp => hother p (hbefore p hp),
    List.flatMap_eq_nil_iff.mpr fun p hp => hother p (hafter p hp), List.nil_append,
    List.append_nil]

/-! ## Taking the reported deletions out -/

/-- The features that are reported for the rule of this index. -/
def reported (g : Grammar) (index : Nat) : List Feature :=
  (g.lint.filter (·.rule == index)).filterMap Warning.feature?

/-- A rule without the features reported for it; none, if that leaves nothing to delete or the rule
is reported to delete nothing. -/
def cleanRule (g : Grammar) (index : Nat) (r : Rule) : Option Rule :=
  let deleted := (g.reported index).foldl Bundle.erase r.deleted
  if deleted.isEmpty || g.lint.contains (.emptyDeletion index) then none
  else some { r with deleted }

/-- The grammar without the deletions that are reported. -/
def clean (g : Grammar) : Grammar :=
  { g with rules := g.rules.zipIdx.filterMap fun (r, index) => g.cleanRule index r }

/-- One rule loses a feature, and the other one goes. -/
example :
    open Catalogue Feature in
    let g := karuk.extend [rule [plus .plural, plus .person1] [], rule [minus .person3] []]
    g.lint = [.unusedDeletion 1 (plus .person1), .unusedDeletion 2 (minus .person3)] ∧
      g.clean = karuk.extend [rule [plus .plural] []] := by
  decide

theorem mem_reported : f ∈ g.reported i ↔ .unusedDeletion i f ∈ g.lint := by
  simp only [reported, List.mem_filterMap, List.mem_filter, beq_iff_eq]
  constructor
  · rintro ⟨w, ⟨hw, rfl⟩, hf⟩
    cases w with
    | unusedDeletion j f' =>
        cases hf
        exact hw
    | emptyDeletion j => cases hf
  · intro h
    exact ⟨.unusedDeletion i f, ⟨h, rfl⟩, rfl⟩

theorem reported_sublist (hr : g.rules[i]? = some r) : (g.reported i).Sublist r.deleted.features := by
  rw [reported, filter_rule_lint hr, lintRule]
  split
  · exact List.nil_sublist _
  · have hfeatures : ((r.deleted.features.filter fun f => !g.carries f).map
        (Warning.unusedDeletion i)).filterMap Warning.feature? =
          r.deleted.features.filter fun f => !g.carries f := by
      rw [List.filterMap_map]
      exact List.filterMap_some
    rw [hfeatures]
    exact List.filter_sublist

/-- What is left of the deletion are the features that some item carries. -/
theorem mem_foldl_erase_reported (hr : g.rules[i]? = some r) :
    f ∈ (g.reported i).foldl Bundle.erase r.deleted ↔ f ∈ r.deleted ∧ g.carries f = true := by
  rw [Bundle.mem_foldl_erase, mem_reported, unusedDeletion_mem_lint]
  refine and_congr_right fun hf => ?_
  simp [hr, hf]

theorem mem_of_cleanRule {r' : Rule} (h : g.cleanRule i r = some r') (hf : f ∈ r'.deleted) :
    r'.context = r.context ∧ f ∈ r.deleted := by
  rw [cleanRule] at h
  split at h
  · cases h
  · cases h
    exact ⟨rfl, (Bundle.mem_foldl_erase.mp hf).1⟩

theorem exists_cleanRule (hr : g.rules[i]? = some r) (hf : f ∈ r.deleted)
    (hcarries : g.carries f = true) :
    ∃ r', g.cleanRule i r = some r' ∧ r'.context = r.context ∧ f ∈ r'.deleted := by
  have hleft : f ∈ (g.reported i).foldl Bundle.erase r.deleted :=
    (mem_foldl_erase_reported hr).mpr ⟨hf, hcarries⟩
  have hdeleted : ¬ ((g.reported i).foldl Bundle.erase r.deleted).isEmpty = true :=
    fun h => Bundle.isEmpty_iff.mp h f hleft
  have hwarning : Warning.emptyDeletion i ∉ g.lint := by
    intro h
    obtain ⟨r', hr', hempty⟩ := emptyDeletion_mem_lint.mp h
    cases hr.symm.trans hr'
    exact hempty f hf
  refine ⟨⟨(g.reported i).foldl Bundle.erase r.deleted, r.context⟩, ?_, rfl, hleft⟩
  rw [cleanRule, if_neg]
  simp [hdeleted, hwarning]

/-- Of the features that some item carries, the same ones are deleted. -/
theorem deletes_clean_iff (cell : Structure) (hcarries : g.carries f = true) :
    g.clean.Deletes cell f ↔ g.Deletes cell f := by
  constructor
  · rintro ⟨r', hr', hf, hcontext⟩
    obtain ⟨⟨r, i⟩, hr, hclean⟩ := List.mem_filterMap.mp hr'
    obtain ⟨heq, hf⟩ := mem_of_cleanRule hclean hf
    rw [heq] at hcontext
    exact ⟨r, List.fst_mem_of_mem_zipIdx hr, hf, hcontext⟩
  · rintro ⟨r, hr, hf, hcontext⟩
    obtain ⟨i, hi⟩ := List.mem_iff_getElem?.mp hr
    obtain ⟨r', hclean, heq, hf⟩ := exists_cleanRule hi hf hcarries
    rw [← heq] at hcontext
    exact ⟨r', List.mem_filterMap.mpr ⟨(r, i), List.mem_zipIdx_iff_getElem?.mpr hi, hclean⟩, hf,
      hcontext⟩

theorem generalised_clean (cell : Structure) : g.clean.generalised cell = g.generalised cell := by
  have hlexicon : g.lexicon = g.clean.lexicon := rfl
  refine (generalised_congr hlexicon fun i hi b hb f hf => ?_).symm
  exact (deletes_clean_iff cell (carries_iff.mpr ⟨i, hi, b, hb, hf⟩)).symm

theorem inserted_clean (cell : Structure) : g.clean.inserted cell = g.inserted cell := by
  rw [inserted, inserted, generalised_clean]

/-! ## Deletions that are not reported -/

def withOnly (g : Grammar) (r : Rule) : Grammar :=
  { g with rules := [r] }

theorem fires_context (r : Rule) : r.fires r.context = true :=
  Structure.satisfies_of_subset (List.Subset.refl _)

theorem deletes_withOnly_context : (g.withOnly r).Deletes r.context f ↔ f ∈ r.deleted := by
  have hdeletions : deletions r.context (g.withOnly r).rules = [r.deleted] :=
    deletions_cons_of_fires (fires_context r)
  rw [deletes_iff, hdeletions]
  simp

/-- A feature that some item carries is seen to be deleted in the cell of the context. -/
theorem generalised_withOnly_ne (hf : f ∈ r.deleted) (hcarries : g.carries f = true) :
    (g.withOnly r).generalised r.context ≠
      (g.withOnly { r with deleted := r.deleted.erase f }).generalised r.context := by
  obtain ⟨i, hi, b, hb, hfb⟩ := carries_iff.mp hcarries
  intro h
  have hitem := List.map_inj_left.mp h i hi
  have hbundle := List.map_inj_left.mp (congrArg (·.meaning.bundles) hitem) b hb
  -- The bundle that carries the feature keeps it only if the rule does not delete it.
  have hkept : f ∈ b.withoutAll
      (deletions r.context (g.withOnly { r with deleted := r.deleted.erase f }).rules) := by
    refine mem_withoutAll_deletions.mpr ⟨hfb, fun hdeletes => ?_⟩
    exact (Bundle.mem_erase.mp (deletes_withOnly_context.mp hdeletes)).2 rfl
  rw [← hbundle] at hkept
  exact (mem_withoutAll_deletions.mp hkept).2 (deletes_withOnly_context.mpr hf)

/-! ## Observed -/

def told (g : Grammar) (cell : Structure) : List Stage :=
  (g.realiseWith cell .recorder []).value.2

theorem told_eq (cell : Structure) : g.told cell = g.stages cell := by
  rw [told, realiseWith_value, Observer.recorder_after, List.nil_append]

theorem told_generalised (cell : Structure) :
    (g.told cell).filterMap Stage.generalised? = [g.generalised cell] := by
  rw [told_eq, stages_generalised]

theorem rule_mem_told : .rule 0 r true ∈ (g.withOnly r).told r.context := by
  have hfired : Stage.rule 0 r true ∈ ruleStages r.context 0 [r] := by
    rw [ruleStages_cons, fires_context]
    exact List.mem_cons_self
  rw [told_eq, stages]
  exact List.mem_append_left _ (List.mem_append_right _ hfired)

/-- The deletions that lint reports can be taken out of a grammar, with the rules that are left
without a deletion, and in every cell observers are shown the same items after all rules and the
same items are inserted. A deletion that is not reported takes its feature from some item as soon as
the rule stands alone and the cell is its own context. A rule without a deletion is reported once,
and for nothing else; the warnings come in the order of the rules, those about one rule in printing
order, and none of them twice. -/
theorem lint_sound_and_complete (g : Grammar) :
    (∀ cell,
      (∃ items, (g.told cell).filterMap Stage.generalised? = [items] ∧
        (g.clean.told cell).filterMap Stage.generalised? = [items]) ∧
      (g.clean.realise cell).value = (g.realise cell).value) ∧
    (∀ alignment, (g.clean.buildParadigm alignment).value = (g.buildParadigm alignment).value) ∧
    (∀ (i : Nat) (r : Rule) (f : Feature),
      g.rules[i]? = some r → f ∈ r.deleted → .unusedDeletion i f ∉ g.lint →
        .rule 0 r true ∈ (g.withOnly r).told r.context ∧
        ∃ items items',
          ((g.withOnly r).told r.context).filterMap Stage.generalised? = [items] ∧
          ((g.withOnly { r with deleted := r.deleted.erase f }).told r.context).filterMap
            Stage.generalised? = [items'] ∧
          items ≠ items') ∧
    (∀ (i : Nat) (r : Rule), g.rules[i]? = some r → r.deleted = .empty →
      g.lint.filter (·.rule == i) = [.emptyDeletion i]) ∧
    g.lint.Pairwise (fun w w' => w.rule ≤ w'.rule) ∧
    (∀ (i : Nat) (r : Rule), g.rules[i]? = some r → (g.reported i).Sublist r.deleted.features) ∧
    g.lint.Nodup := by
  refine ⟨fun cell => ⟨⟨g.generalised cell, told_generalised cell, ?_⟩, ?_⟩, fun alignment => ?_,
    fun i r f hr hf hlint => ⟨rule_mem_told, _, _, told_generalised _, told_generalised _, ?_⟩,
    fun i r hr hempty => ?_, lint_pairwise_rule_le, fun i r hr => reported_sublist hr, lint_nodup⟩
  · rw [told_generalised, generalised_clean]
  · rw [realise_value, realise_value, inserted_clean]
  · have hcells : g.clean.cells alignment = g.cells alignment :=
      cells_congr (g := g.clean) (h := g) rfl rfl rfl inserted_clean alignment
    rw [buildParadigm_value, buildParadigm_value, hcells]
  · refine generalised_withOnly_ne hf (Bool.of_not_eq_false fun hcarries => hlint ?_)
    exact unusedDeletion_mem_lint.mpr ⟨r, hr, hf, hcarries⟩
  · rw [filter_rule_lint hr, lintRule, hempty]
    rfl

end Agreement.Grammar
