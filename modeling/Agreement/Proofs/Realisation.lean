import Mathlib.Data.List.Forall2
import Agreement.Proofs.Observer
import Agreement.Proofs.Structure

/-!
# What a cell is realised with

The rules never change the cell, so which of them fire is settled before the first one is applied,
and the items after all rules are the items without the features of all deletions that fire. From
this the inserted items have a closed form that speaks of the original meanings only.
-/

namespace Agreement

/-! ## Deletions one after another -/

def Bundle.withoutAll (b : Bundle) (ds : List Bundle) : Bundle :=
  ds.foldl Bundle.without b

theorem Bundle.mem_withoutAll {b : Bundle} {ds : List Bundle} {f : Feature} :
    f ∈ b.withoutAll ds ↔ f ∈ b ∧ ∀ d ∈ ds, f ∉ d := by
  unfold withoutAll
  induction ds generalizing b with
  | nil => simp
  | cons d ds ih => rw [List.foldl_cons, ih, mem_without, List.forall_mem_cons, and_assoc]

def Item.withoutAll (i : Item) (ds : List Bundle) : Item :=
  { i with meaning := ⟨i.meaning.bundles.map (·.withoutAll ds)⟩ }

theorem Item.withoutAll_nil (i : Item) : i.withoutAll [] = i := by
  simp [withoutAll, Bundle.withoutAll]

theorem Item.withoutAll_cons (i : Item) (d : Bundle) (ds : List Bundle) :
    i.withoutAll (d :: ds) = (i.without d).withoutAll ds := by
  simp [withoutAll, without, Structure.without, Bundle.withoutAll]

/-! ## The rules -/

/-- The deletions of the rules that a cell lets fire. -/
def deletions (cell : Structure) (rules : List Rule) : List Bundle :=
  (rules.filter (·.fires cell)).map Rule.deleted

theorem deletions_cons_of_fires {cell : Structure} {r : Rule} {rules : List Rule}
    (h : r.fires cell = true) : deletions cell (r :: rules) = r.deleted :: deletions cell rules := by
  simp [deletions, h]

theorem deletions_cons_of_not_fires {cell : Structure} {r : Rule} {rules : List Rule}
    (h : r.fires cell = false) : deletions cell (r :: rules) = deletions cell rules := by
  simp [deletions, h]

/-- The items after a rule was tested. -/
def Rule.applyIn (cell : Structure) (items : List Item) (r : Rule) : List Item :=
  if r.fires cell then r.apply items else items

/-- All rules: the cell stays as it is, so the deletions add up, whatever the items look like on the
way. -/
theorem foldl_applyIn (cell : Structure) (rules : List Rule) (items : List Item) :
    rules.foldl (Rule.applyIn cell) items = items.map (·.withoutAll (deletions cell rules)) := by
  induction rules generalizing items with
  | nil =>
      have hitems : items.map (·.withoutAll (deletions cell [])) = items :=
        (List.map_congr_left fun i _ => i.withoutAll_nil).trans (List.map_id items)
      rw [hitems, List.foldl_nil]
  | cons r rules ih =>
      rw [List.foldl_cons, ih, Rule.applyIn]
      cases hr : r.fires cell with
      | true =>
          -- Later rules find items without the features of this one, as the fold does.
          rw [if_pos rfl, deletions_cons_of_fires hr, Rule.apply, List.map_map]
          simp only [Function.comp_def, Item.withoutAll_cons]
      | false => rw [if_neg Bool.false_ne_true, deletions_cons_of_not_fires hr]

/-- The stages of the rules from number `index` on. -/
def ruleStages (cell : Structure) (index : Nat) (rules : List Rule) : List Stage :=
  (rules.zipIdx index).map fun (r, i) => .rule i r (r.fires cell)

theorem ruleStages_cons (cell : Structure) (index : Nat) (r : Rule) (rules : List Rule) :
    ruleStages cell index (r :: rules) =
      .rule index r (r.fires cell) :: ruleStages cell (index + 1) rules := rfl

section

variable {σ : Type} (o : Observer σ) (cell : Structure)

/-- One rule: the observer is told of it, and if it fires the items lose its features. -/
theorem applyRules_cons_value (index : Nat) (r : Rule) (rules : List Rule) (items : List Item)
    (s : σ) :
    (applyRules o cell index (r :: rules) items s).value =
      (applyRules o cell (index + 1) rules (r.applyIn cell items)
        (o.tell s (.rule index r (r.fires cell))).value).value := by
  rw [applyRules, Rule.applyIn]
  cases r.fires cell <;> rfl

theorem applyRules_value (index : Nat) (rules : List Rule) (items : List Item) (s : σ) :
    (applyRules o cell index rules items s).value =
      (rules.foldl (Rule.applyIn cell) items, o.after (ruleStages cell index rules) s) := by
  induction rules generalizing index items s with
  | nil => rfl
  | cons r rules ih =>
      rw [applyRules_cons_value, ih, ruleStages_cons, Observer.after_cons, List.foldl_cons]

end

namespace Grammar

def generalised (g : Grammar) (cell : Structure) : List Item :=
  g.lexicon.map (·.withoutAll (deletions cell g.rules))

/-- The items whose meaning after all rules holds of the cell. -/
def inserted (g : Grammar) (cell : Structure) : List Item :=
  (g.generalised cell).filter fun i => cell.satisfies i.meaning

def stages (g : Grammar) (cell : Structure) : List Stage :=
  [.cell cell, .copied g.lexicon] ++ ruleStages cell 0 g.rules ++
    [.generalised (g.generalised cell), .matched (g.inserted cell)]

theorem stages_generalised (g : Grammar) (cell : Structure) :
    (g.stages cell).filterMap Stage.generalised? = [g.generalised cell] := by
  have hrules : (ruleStages cell 0 g.rules).filterMap Stage.generalised? = [] := by
    rw [ruleStages, List.filterMap_map]
    exact List.filterMap_eq_nil_iff.mpr fun _ _ => rfl
  rw [stages, List.filterMap_append, List.filterMap_append, hrules]
  rfl

theorem stages_matched (g : Grammar) (cell : Structure) :
    (g.stages cell).filterMap Stage.matched? = [g.inserted cell] := by
  have hrules : (ruleStages cell 0 g.rules).filterMap Stage.matched? = [] := by
    rw [ruleStages, List.filterMap_map]
    exact List.filterMap_eq_nil_iff.mpr fun _ _ => rfl
  rw [stages, List.filterMap_append, List.filterMap_append, hrules]
  rfl

theorem realiseWith_value {σ : Type} (g : Grammar) (cell : Structure) (o : Observer σ) (s : σ) :
    (g.realiseWith cell o s).value = (g.inserted cell, o.after (g.stages cell) s) := by
  simp only [realiseWith, Logged.value_bind, Logged.value_pure, applyRules_value, foldl_applyIn]
  rw [stages, Observer.after_append, Observer.after_append]
  rfl

theorem realise_value (g : Grammar) (cell : Structure) :
    (g.realise cell).value = g.inserted cell := by
  simp [realise, realiseWith_value]

/-- A derivation fails exactly as its cell string does, whoever watches. -/
theorem derive_value {σ : Type} (g : Grammar) (alignment : Alignment) (cell : String)
    (o : Observer σ) (s : σ) :
    (g.derive alignment cell o s).value.1 =
      (Structure.readCell alignment cell).map g.inserted := by
  unfold derive
  cases Structure.readCell alignment cell with
  | error e => rfl
  | ok c => simp only [Logged.value_bind, realiseWith_value, Logged.value_pure, Except.map]

/-! ## The closed form -/

/-- Whether some rule whose context holds of the cell deletes the feature. -/
def Deletes (g : Grammar) (cell : Structure) (f : Feature) : Prop :=
  ∃ r ∈ g.rules, f ∈ r.deleted ∧
    ∀ wanted ∈ r.context.bundles, ∃ given ∈ cell.bundles, wanted ⊆ given

/-- Whether each bundle of a meaning is part of some bundle of the cell, deleted features apart. -/
def Admits (g : Grammar) (cell meaning : Structure) : Prop :=
  ∀ b ∈ meaning.bundles, ∃ given ∈ cell.bundles, ∀ f ∈ b, f ∈ given ∨ g.Deletes cell f

instance (g : Grammar) (cell : Structure) : DecidablePred (g.Deletes cell) := fun f =>
  inferInstanceAs (Decidable (∃ r ∈ g.rules, f ∈ r.deleted ∧
    ∀ wanted ∈ r.context.bundles, ∃ given ∈ cell.bundles, wanted ⊆ given))

instance (g : Grammar) (cell : Structure) : DecidablePred (g.Admits cell) := fun meaning =>
  inferInstanceAs (Decidable (∀ b ∈ meaning.bundles, ∃ given ∈ cell.bundles,
    ∀ f ∈ b, f ∈ given ∨ g.Deletes cell f))

variable (g : Grammar) (cell : Structure)

variable {g cell} in
theorem deletes_iff {f : Feature} : g.Deletes cell f ↔ ∃ d ∈ deletions cell g.rules, f ∈ d := by
  simp only [Deletes, deletions, List.mem_map, List.mem_filter, Rule.fires,
    Structure.satisfies_iff]
  constructor
  · rintro ⟨r, hr, hf, hfires⟩
    exact ⟨r.deleted, ⟨r, ⟨hr, hfires⟩, rfl⟩, hf⟩
  · rintro ⟨_, ⟨r, ⟨hr, hfires⟩, rfl⟩, hf⟩
    exact ⟨r, hr, hf, hfires⟩

variable {g cell} in
theorem mem_withoutAll_deletions {b : Bundle} {f : Feature} :
    f ∈ b.withoutAll (deletions cell g.rules) ↔ f ∈ b ∧ ¬ g.Deletes cell f := by
  rw [Bundle.mem_withoutAll, deletes_iff]
  simp only [not_exists, not_and]

/-- The meaning after all rules holds of a cell if the original one does up to deleted features. -/
theorem satisfies_withoutAll_iff (i : Item) :
    cell.satisfies (i.withoutAll (deletions cell g.rules)).meaning = true ↔
      g.Admits cell i.meaning := by
  simp only [Structure.satisfies_iff, Item.withoutAll, List.forall_mem_map, Admits,
    Bundle.subset_iff, mem_withoutAll_deletions]
  refine forall₂_congr fun b _ => exists_congr fun given => and_congr_right fun _ => ?_
  constructor
  · intro h f hf
    by_cases hd : g.Deletes cell f
    · exact Or.inr hd
    · exact Or.inl (h f ⟨hf, hd⟩)
  · rintro h f ⟨hf, hd⟩
    exact (h f hf).resolve_right hd

theorem inserted_eq_filter_zip :
    g.inserted cell =
      ((g.lexicon.zip (g.generalised cell)).filter fun p => g.Admits cell p.1.meaning).map
        Prod.snd := by
  unfold inserted generalised
  induction g.lexicon with
  | nil => rfl
  | cons i lexicon ih =>
      have hi := satisfies_withoutAll_iff g cell i
      by_cases h : g.Admits cell i.meaning
      · simp [h, hi.mpr h, ih]
      · simp [h, Bool.eq_false_iff.mpr (mt hi.mp h), ih]

/-- Whoever watches, the items shown after all rules are those of the lexicon without the features
deleted in the cell, and those inserted are the ones whose original meaning the cell admits. -/
theorem realiseWith_closed_form {σ : Type} (o : Observer σ) (s : σ) :
    ∃ items,
      (g.realiseWith cell (o.both .recorder) (s, [])).value.2.2.filterMap Stage.generalised? =
        [items] ∧
      List.Forall₂ (fun i i' => i'.form = i.form ∧
          List.Forall₂ (fun b b' => ∀ f, f ∈ b' ↔ f ∈ b ∧ ¬ g.Deletes cell f)
            i.meaning.bundles i'.meaning.bundles)
        g.lexicon items ∧
      (g.realiseWith cell o s).value.1 =
        ((g.lexicon.zip items).filter fun p => g.Admits cell p.1.meaning).map Prod.snd ∧
      (g.realise cell).value =
        ((g.lexicon.zip items).filter fun p => g.Admits cell p.1.meaning).map Prod.snd := by
  refine ⟨g.generalised cell, ?_, ?_, ?_, ?_⟩
  · rw [realiseWith_value, Observer.both_after, Observer.recorder_after, List.nil_append,
      stages_generalised]
  · rw [generalised, List.forall₂_map_right_iff, List.forall₂_same]
    intro i _
    refine ⟨rfl, ?_⟩
    rw [Item.withoutAll, List.forall₂_map_right_iff, List.forall₂_same]
    exact fun b _ f => mem_withoutAll_deletions
  · rw [realiseWith_value, inserted_eq_filter_zip]
  · rw [realise_value, inserted_eq_filter_zip]

end Grammar

end Agreement
