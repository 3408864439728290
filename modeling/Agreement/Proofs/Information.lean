import Agreement.Proofs.Catalogue
import Agreement.Proofs.Insertion

/-!
# Cells with more information

The cell decides twice what is realised: which rules fire, and which of the items they leave are
inserted. Information added to the cell works the same way at both places, so nothing is lost by it,
and two cells that satisfy one another are realised alike.
-/

namespace Agreement

variable {c d : Structure}

theorem Rule.fires_of_satisfies (h : d.satisfies c = true) {r : Rule} (hr : r.fires c = true) :
    r.fires d = true :=
  Structure.satisfies_trans h hr

theorem deletions_sublist (h : d.satisfies c = true) (rules : List Rule) :
    (deletions c rules).Sublist (deletions d rules) :=
  (List.monotone_filter_right rules fun _ hr => Rule.fires_of_satisfies h hr).map Rule.deleted

/-- Cells that satisfy one another satisfy the same conditions. -/
theorem Structure.satisfies_congr (hdc : d.satisfies c = true) (hcd : c.satisfies d = true) :
    d.satisfies = c.satisfies := by
  funext m
  rw [Bool.eq_iff_iff]
  exact ⟨fun hm => satisfies_trans hcd hm, fun hm => satisfies_trans hdc hm⟩

namespace Grammar

variable (g : Grammar)

theorem covers_of_satisfies (h : d.satisfies c = true) : g.Covers d g c where
  lexicon_eq := rfl
  satisfies := h
  deletions_subset := (deletions_sublist h g.rules).subset

/-- Two cells are realised alike if they agree on the contexts of the rules and on what these leave
of the meanings. -/
theorem inserted_eq_of_agree (hrules : ∀ r ∈ g.rules, d.satisfies r.context = c.satisfies r.context)
    (hitems : ∀ i ∈ g.generalised c, d.satisfies i.meaning = c.satisfies i.meaning) :
    g.inserted d = g.inserted c := by
  have hdeletions : deletions d g.rules = deletions c g.rules := by
    unfold deletions Rule.fires
    rw [List.filter_congr hrules]
  have hgeneralised : g.generalised d = g.generalised c := by
    rw [generalised, generalised, hdeletions]
  rw [inserted, inserted, hgeneralised, List.filter_congr hitems]

/-- The cell is used through what it satisfies and in no other way. -/
theorem inserted_congr (h : d.satisfies = c.satisfies) : g.inserted d = g.inserted c :=
  g.inserted_eq_of_agree (fun r _ => congrFun h r.context) fun i _ => congrFun h i.meaning

/-- With more information in the cell every rule fires that fired before, and every item is inserted
that was inserted before, at its position in the lexicon and with a meaning that asks for no more.
Cells with the same information, such as the same bundles in another order or some of them twice,
are realised with the same items. -/
theorem realise_mono_of_satisfies (h : d.satisfies c = true) :
    (∀ r ∈ g.rules, r.fires c = true → r.fires d = true) ∧
    (g.realise c).value = (g.insertions c).map Prod.fst ∧
    (g.realise d).value = (g.insertions d).map Prod.fst ∧
    ((g.insertions c).map Prod.snd).Sublist ((g.insertions d).map Prod.snd) ∧
    (∀ i n, (i, n) ∈ g.insertions c →
      ∃ i', (i', n) ∈ g.insertions d ∧ i'.form = i.form ∧
        List.Forall₂ (fun b b' => b' ⊆ b) i.meaning.bundles i'.meaning.bundles) ∧
    (c.satisfies d = true → (g.realise d).value = (g.realise c).value) ∧
    ((∀ b, b ∈ c.bundles ↔ b ∈ d.bundles) → (g.realise d).value = (g.realise c).value) := by
  have hcov := g.covers_of_satisfies h
  have hrealise : c.satisfies d = true → (g.realise d).value = (g.realise c).value := by
    intro hcd
    rw [realise_value, realise_value]
    exact g.inserted_congr (Structure.satisfies_congr h hcd)
  refine ⟨fun r _ hr => Rule.fires_of_satisfies h hr, ?_, ?_, hcov.positions_sublist,
    fun i n hi => hcov.exists_mem_insertions hi, hrealise, ?_⟩
  · rw [realise_value, map_fst_insertions]
  · rw [realise_value, map_fst_insertions]
  · intro hbundles
    exact hrealise (Structure.satisfies_of_subset fun b hb => (hbundles b).mpr hb)

/-- Two more rules of Kulung fire once the agent is known to be an agent, and two more suffixes
stand beside `-o`. -/
theorem kulung_realise_mono_of_satisfies :
    open Catalogue Feature in
    let c : Structure := ⟨[.of [plus .person1, plus .singular], .of [abs, plus .person3]]⟩
    let d : Structure := ⟨[.of [abs, plus .person3, minus .singular, minus .plural],
      .of [erg, plus .person1, minus .person2, plus .singular]]⟩
    d.satisfies c = true ∧ c.satisfies d = false ∧
      ((kulung.insertions c).map Prod.snd).Sublist ((kulung.insertions d).map Prod.snd) ∧
      (kulung.insertions c).map Prod.snd = [0] ∧
      (kulung.insertions d).map Prod.snd = [0, 3, 4] := by
  intro c d
  have h : d.satisfies c = true := by decide
  exact ⟨h, by decide, (Catalogue.kulung.realise_mono_of_satisfies h).2.2.2.1, by decide,
    by decide⟩

end Grammar

end Agreement
