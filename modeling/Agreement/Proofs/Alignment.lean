import Agreement.Proofs.Catalogue
import Agreement.Proofs.CellSyntax
import Agreement.Proofs.Information
import Agreement.Proofs.Paradigm

/-!
# What the alignment decides

The alignment chooses the cases of a cell and nothing else. A grammar whose conditions mention no
case is therefore realised alike in both alignments. A grammar whose conditions all ask for a case
of one alignment has nothing to insert in the other one: the rules that could delete the case ask
for it themselves.
-/

namespace Agreement

/-! ## Conditions without cases -/

namespace Bundle

variable {b c : Bundle}

theorem case_eq_none_iff : b.case = none ↔ ∀ l, Feature.case l ∉ b := by
  simp only [Option.eq_none_iff_forall_ne_some, case_mem_iff, ne_eq]

theorem mem_caseless {f : Feature} : f ∈ b.caseless ↔ f ∈ b ∧ ∀ l, f ≠ .case l := by
  cases f with
  | case l => simp [case_mem_iff, caseless]
  | signed a s => cases a <;> simp [signed_mem_iff, sign, caseless]

/-- Where no case is asked for, it makes no difference which one there is. -/
theorem subset_caseless_iff (hb : b.case = none) : b ⊆ c.caseless ↔ b ⊆ c := by
  simp only [subset_iff, mem_caseless]
  refine forall₂_congr fun f hf => and_iff_left fun l => ?_
  rintro rfl
  exact case_eq_none_iff.mp hb l hf

end Bundle

namespace Structure

/-- Whether no bundle has a case. -/
def CaseFree (s : Structure) : Prop :=
  ∀ b ∈ s.bundles, b.case = none

instance : DecidablePred CaseFree := fun s =>
  inferInstanceAs (Decidable (∀ b ∈ s.bundles, b.case = none))

theorem satisfies_caseless {m : Structure} (hm : m.CaseFree) (cell : Structure) :
    cell.caseless.satisfies m = cell.satisfies m := by
  rw [Bool.eq_iff_iff, satisfies_iff, satisfies_iff, caseless]
  simp only [List.mem_map, exists_exists_and_eq_and]
  refine forall₂_congr fun b hb => exists_congr fun given => and_congr_right fun _ => ?_
  exact Bundle.subset_caseless_iff (hm b hb)

theorem CaseFree.withoutAll {i : Item} (hi : i.meaning.CaseFree) (ds : List Bundle) :
    (i.withoutAll ds).meaning.CaseFree := by
  refine List.forall_mem_map.mpr fun b hb => Bundle.case_eq_none_iff.mpr fun l hl => ?_
  exact Bundle.case_eq_none_iff.mp (hi b hb) l (Bundle.mem_withoutAll.mp hl).1

end Structure

namespace Grammar

variable {g : Grammar}

/-- Whether neither the meanings nor the contexts of a grammar mention a case. The deletions may. -/
structure CaseFree (g : Grammar) : Prop where
  meaning : ∀ i ∈ g.lexicon, i.meaning.CaseFree
  context : ∀ r ∈ g.rules, r.context.CaseFree

theorem CaseFree.inserted_caseless (hg : g.CaseFree) (cell : Structure) :
    g.inserted cell.caseless = g.inserted cell := by
  refine g.inserted_eq_of_agree (fun r hr => ?_) fun i hi => ?_
  · exact Structure.satisfies_caseless (hg.context r hr) cell
  · obtain ⟨j, hj, rfl⟩ := List.mem_map.mp hi
    exact Structure.satisfies_caseless ((hg.meaning j hj).withoutAll _) cell

theorem CaseFree.inserted_congr (hg : g.CaseFree) {c d : Structure} (h : c.caseless = d.caseless) :
    g.inserted c = g.inserted d := by
  rw [← hg.inserted_caseless c, h, hg.inserted_caseless]

theorem CaseFree.cells_eq (hg : g.CaseFree) (a a' : Alignment) : g.cells a = g.cells a' :=
  cells_eq_of_inserted_eq rfl rfl rfl (fun _ => hg.inserted_congr rfl)
    fun _ _ => hg.inserted_congr rfl

/-- What is inserted depends on a cell string only up to the cases of what it reads as. -/
theorem CaseFree.map_readCell_eq (hg : g.CaseFree) (a a' : Alignment) (cell : String) :
    (Structure.readCell a cell).map g.inserted = (Structure.readCell a' cell).map g.inserted := by
  have hmap : ∀ x : Except InputError Structure,
      x.map g.inserted = (x.map Structure.caseless).map g.inserted := by
    intro x
    cases x with
    | error e => rfl
    | ok c => exact congrArg Except.ok (hg.inserted_caseless c).symm
  rw [hmap, hmap (Structure.readCell a' cell), Structure.readCell_caseless a a']

variable (g)

/-- A grammar whose conditions mention no case cannot tell the alignments apart: its paradigm is the
same in both, and so is every derivation, the refused ones included. -/
theorem alignments_agree_of_caseFree
    (hmeaning : ∀ i ∈ g.lexicon, ∀ b ∈ i.meaning.bundles, b.case = none)
    (hcontext : ∀ r ∈ g.rules, ∀ b ∈ r.context.bundles, b.case = none) :
    (∃ p, (g.buildParadigm .accusative).value = .ok p ∧
      (g.buildParadigm .ergative).value = .ok p) ∧
    ∀ (cell : String) (σ τ : Type) (o : Observer σ) (s : σ) (w : Observer τ) (t : τ),
      (g.derive .accusative cell o s).value.1 = (g.derive .ergative cell w t).value.1 := by
  have hg : g.CaseFree := ⟨hmeaning, hcontext⟩
  constructor
  · refine ⟨g.cells .ergative, ?_, g.buildParadigm_value .ergative⟩
    rw [buildParadigm_value, hg.cells_eq .accusative .ergative]
  · intro cell σ τ o s w t
    rw [derive_value, derive_value, hg.map_readCell_eq .accusative .ergative]

/-- Agreement in person and number alone. One rule deletes a case too, though no item has any. -/
def numberAgreement : Grammar where
  name := "Number"
  transitive := true
  dual := true
  lexicon := open Catalogue Feature in [
    item "-k" [[plus .plural], [plus .person1]],
    item "-t" [[minus .singular, minus .plural]],
    item "n-" [[plus .person1, plus .plural]]]
  rules := open Catalogue Feature in [
    rule [erg, plus .plural] [[plus .person3, plus .plural], [minus .person3]],
    rule [minus .singular] [[plus .intransitive]]]

/-- The alignments read `3p>1s` as different cells, and they refuse `3x` alike. -/
theorem numberAgreement_alignments_agree :
    numberAgreement.CaseFree ∧
    Structure.readCell .accusative "3p>1s" ≠ Structure.readCell .ergative "3p>1s" ∧
    (∃ p, (numberAgreement.buildParadigm .accusative).value = .ok p ∧
      (numberAgreement.buildParadigm .ergative).value = .ok p) ∧
    (numberAgreement.derive .accusative "3p>1s" .silent ()).value.1 =
      (numberAgreement.derive .ergative "3p>1s" .silent ()).value.1 ∧
    (numberAgreement.derive .accusative "3x" .silent ()).value.1 =
      (numberAgreement.derive .ergative "3x" .silent ()).value.1 := by
  have hmeaning : ∀ i ∈ numberAgreement.lexicon, i.meaning.CaseFree := by decide
  have hcontext : ∀ r ∈ numberAgreement.rules, r.context.CaseFree := by decide
  obtain ⟨hparadigm, hderive⟩ := numberAgreement.alignments_agree_of_caseFree hmeaning hcontext
  refine ⟨⟨hmeaning, hcontext⟩, ?_, hparadigm, hderive "3p>1s" Unit Unit .silent () .silent (),
    hderive "3x" Unit Unit .silent () .silent ()⟩
  have hread : ∀ alignment, Structure.readCell alignment "3p>1s" =
      .ok ⟨[(⟨.third, .plural⟩ : Argument).bundle alignment.agent false,
        (⟨.first, .singular⟩ : Argument).bundle alignment.patient false]⟩ :=
    fun alignment => Structure.readCell_texts alignment ⟨.third, .plural⟩ ⟨.first, .singular⟩
  rw [hread, hread]
  decide

end Grammar

/-! ## The cases of an alignment -/

/-- The cases that arguments take in an alignment. -/
def Alignment.cases : Alignment → List Case
  | accusative => [.nominative, .accusative]
  | ergative => [.ergative, .absolutive]

/-- Whether a bundle has a case of the alignment. -/
def Bundle.Cased (alignment : Alignment) (b : Bundle) : Prop :=
  ∃ l ∈ alignment.cases, b.case = some l

instance (alignment : Alignment) : DecidablePred (Bundle.Cased alignment) := fun b =>
  inferInstanceAs (Decidable (∃ l ∈ alignment.cases, b.case = some l))

variable {alignment other : Alignment}

namespace Alignment

/-- Each role takes one of the cases. -/
theorem roles_subset_cases (a : Alignment) : [a.sole, a.agent, a.patient] ⊆ a.cases := by
  cases a <;> decide

theorem cases_disjoint (hne : other ≠ alignment) {l : Case} (hl : l ∈ alignment.cases) :
    l ∉ other.cases := by
  cases alignment <;> cases other <;> cases l <;> simp_all [cases]

end Alignment

/-- A bundle with a case of one alignment is no part of a bundle with a case of the other one. -/
theorem Bundle.Cased.not_subset (hne : other ≠ alignment) {b given : Bundle}
    (hb : b.Cased other) (hgiven : given.Cased alignment) : ¬ b ⊆ given := by
  obtain ⟨l, hl, hcase⟩ := hb
  obtain ⟨l', hl', hcase'⟩ := hgiven
  intro hsub
  have hmem : Feature.case l ∈ given := hsub (case_mem_iff.mpr hcase)
  rw [case_mem_iff, hcase', Option.some.injEq] at hmem
  exact Alignment.cases_disjoint hne hl' (hmem ▸ hl)

namespace Structure

/-- Every bundle of a cell string that reads has one of the cases of the alignment. -/
theorem cased_of_readCell {cell : String} {c : Structure} (h : readCell alignment cell = .ok c) :
    ∀ b ∈ c.bundles, b.Cased alignment := by
  have hspells := ((readCell_eq_iff alignment cell).1 c).mp h
  generalize sides cell = us at hspells
  cases hspells with
  | empty => exact List.forall_mem_nil _
  | sole => exact List.forall_mem_singleton.mpr ⟨_, alignment.roles_subset_cases (by simp), rfl⟩
  | both =>
      refine List.forall_mem_cons.mpr ⟨⟨_, alignment.roles_subset_cases (by simp), rfl⟩, ?_⟩
      exact List.forall_mem_singleton.mpr ⟨_, alignment.roles_subset_cases (by simp), rfl⟩

/-- A cell of one alignment does not satisfy a condition that asks for a case of the other one. -/
theorem not_satisfies_of_cased (hne : other ≠ alignment) {cell condition : Structure}
    (hcell : ∀ given ∈ cell.bundles, given.Cased alignment)
    (hcondition : ∃ b ∈ condition.bundles, b.Cased other) : ¬ cell.satisfies condition = true := by
  obtain ⟨b, hb, hcased⟩ := hcondition
  intro h
  obtain ⟨given, hgiven, hsub⟩ := satisfies_iff.mp h b hb
  exact hcased.not_subset hne (hcell given hgiven) hsub

end Structure

namespace Grammar

variable {g : Grammar} {cell : Structure}

/-- Whether the conditions of a grammar ask for cases of the alignment: each meaning does, and so
does each context of a rule that deletes such a case. -/
structure AsksFor (g : Grammar) (alignment : Alignment) : Prop where
  meaning : ∀ i ∈ g.lexicon, ∃ b ∈ i.meaning.bundles, b.Cased alignment
  context : ∀ r ∈ g.rules, r.deleted.Cased alignment →
    ∃ b ∈ r.context.bundles, b.Cased alignment

/-- No rule that fires takes a case of the other alignment from an item. -/
theorem AsksFor.cased_withoutAll (hg : g.AsksFor other) (hne : other ≠ alignment)
    (hcell : ∀ given ∈ cell.bundles, given.Cased alignment) {b : Bundle} (hb : b.Cased other) :
    (b.withoutAll (deletions cell g.rules)).Cased other := by
  obtain ⟨l, hl, hcase⟩ := hb
  refine ⟨l, hl, ?_⟩
  rw [← Bundle.case_mem_iff, mem_withoutAll_deletions]
  refine ⟨Bundle.case_mem_iff.mpr hcase, ?_⟩
  rintro ⟨r, hr, hdeleted, hfires⟩
  have hcontext := hg.context r hr ⟨l, hl, Bundle.case_mem_iff.mp hdeleted⟩
  exact Structure.not_satisfies_of_cased hne hcell hcontext (Structure.satisfies_iff.mpr hfires)

theorem AsksFor.inserted_eq_nil (hg : g.AsksFor other) (hne : other ≠ alignment)
    (hcell : ∀ given ∈ cell.bundles, given.Cased alignment) : g.inserted cell = [] := by
  refine List.filter_eq_nil_iff.mpr fun i hi => ?_
  obtain ⟨j, hj, rfl⟩ := List.mem_map.mp hi
  obtain ⟨b, hb, hcased⟩ := hg.meaning j hj
  exact Structure.not_satisfies_of_cased hne hcell
    ⟨_, List.mem_map_of_mem hb, hg.cased_withoutAll hne hcell hcased⟩

theorem AsksFor.isGap (hg : g.AsksFor other) (hne : other ≠ alignment) {row : Paradigm.Row}
    (hrow : row ∈ (g.cells alignment).rows) {c : Paradigm.Cell} (hc : c ∈ row.cells)
    (hexcluded : c ≠ .excluded) : c.isGap = true := by
  obtain ⟨subject, -, rfl⟩ := List.mem_map.mp hrow
  rcases List.mem_cons.mp hc with rfl | hobject
  · have hcell := Structure.cased_of_readCell (Structure.readCell_text alignment subject)
    exact List.isEmpty_iff.mpr (hg.inserted_eq_nil hne hcell)
  · obtain ⟨object, -, rfl⟩ := List.mem_map.mp hobject
    have hcell := Structure.cased_of_readCell (Structure.readCell_texts alignment subject object)
    rw [ne_eq, pairCell_eq_excluded_iff] at hexcluded
    rw [pairCell, if_neg hexcluded]
    exact List.isEmpty_iff.mpr (hg.inserted_eq_nil hne hcell)

variable (g) (alignment other)

/-- A grammar whose conditions ask for the cases of one alignment has nothing but gaps in the other
one. -/
theorem only_gaps_of_other_alignment (hne : other ≠ alignment)
    (hmeaning : ∀ i ∈ g.lexicon, ∃ b ∈ i.meaning.bundles, b.Cased other)
    (hcontext : ∀ r ∈ g.rules, r.deleted.Cased other →
      ∃ b ∈ r.context.bundles, b.Cased other) :
    (∀ cell : String, (∃ c, Structure.readCell alignment cell = .ok c) →
      ∀ (σ : Type) (o : Observer σ) (s : σ), (g.derive alignment cell o s).value.1 = .ok []) ∧
    ∃ p, (g.buildParadigm alignment).value = .ok p ∧
      ∀ row ∈ p.rows, ∀ c ∈ row.cells, c ≠ .excluded → c.isGap = true := by
  have hg : g.AsksFor other := ⟨hmeaning, hcontext⟩
  constructor
  · rintro cell ⟨c, hc⟩ σ o s
    rw [derive_value, hc]
    exact congrArg Except.ok (hg.inserted_eq_nil hne (Structure.cased_of_readCell hc))
  · exact ⟨g.cells alignment, g.buildParadigm_value alignment,
      fun row hrow c hc hexcluded => hg.isGap hne hrow hc hexcluded⟩

/-- Kulung has nothing to insert where there are no ergatives and absolutives, and Karuk nothing
where there are no accusatives; each is drawn in the other alignment. -/
theorem kulung_only_gaps_of_other_alignment :
    (∃ p, (Catalogue.kulung.buildParadigm .accusative).value = .ok p ∧
      ∀ row ∈ p.rows, ∀ c ∈ row.cells, c ≠ .excluded → c.isGap = true) ∧
    (Catalogue.karukNegative.derive .ergative "1s>2p" .silent ()).value.1 = .ok [] ∧
    (Catalogue.karukNegative.derive .accusative "1s>2p" .silent ()).value.1 ≠ .ok [] := by
  have hkulung := Catalogue.kulung.only_gaps_of_other_alignment .accusative .ergative
    (by decide) (by decide) (by decide)
  have hkaruk := Catalogue.karukNegative.only_gaps_of_other_alignment .ergative .accusative
    (by decide) (by decide) (by decide)
  have hread : ∀ alignment, Structure.readCell alignment "1s>2p" =
      .ok ⟨[(⟨.first, .singular⟩ : Argument).bundle alignment.agent false,
        (⟨.second, .plural⟩ : Argument).bundle alignment.patient false]⟩ :=
    fun alignment => Structure.readCell_texts alignment ⟨.first, .singular⟩ ⟨.second, .plural⟩
  refine ⟨hkulung.2, hkaruk.1 "1s>2p" ⟨_, hread .ergative⟩ Unit .silent (), ?_⟩
  rw [derive_value, hread]
  decide

end Grammar

end Agreement
