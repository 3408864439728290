import Agreement.Proofs.CellMeaning
import Agreement.Proofs.Realisation

/-!
# Cells of cell strings are fully specified

The bundle of an argument has a case and a sign for each person and number, so another one is part
of it only if it says the same of them. The case tells agents from patients, and a sole argument is
marked as one. A cell therefore satisfies the cell of another cell string only if it is the same.
-/

namespace Agreement

theorem Alignment.agent_ne_patient (a : Alignment) : a.agent ≠ a.patient := by
  cases a <;> decide

namespace Bundle

variable {label label' : Case} {sole sole' : Bool} {u v : List Char}

/-- The bundle of an argument is part of another one in the same case only, and if it is marked as a
sole argument so is the other. -/
theorem label_eq_of_ofLetters_subset (h : ofLetters label sole u ⊆ ofLetters label' sole' v) :
    label = label' ∧ (sole = true → sole' = true) := by
  constructor
  · have hcase : Feature.case label ∈ ofLetters label' sole' v := h (case_mem_iff.mpr rfl)
    rw [case_mem_iff] at hcase
    exact (Option.some.inj hcase).symm
  · rintro rfl
    have hintr : Feature.plus .intransitive ∈ ofLetters label' sole' v := h (signed_mem_iff.mpr rfl)
    cases sole' with
    | true => rfl
    | false => cases signed_mem_iff.mp hintr

theorem eq_of_ofLetters_subset (h : ofLetters label sole u ⊆ ofLetters label sole v) :
    ofLetters label sole u = ofLetters label sole v :=
  ofLetters_congr label sole
    ((describes_ofLetters label sole u).assertedBy_iff (describes_ofLetters label sole v) h)

end Bundle

namespace Structure

variable {alignment : Alignment} {c d : Structure} {us vs : List (List Char)}

/-- Of the two bundles of a transitive cell, only the agent's has the agent's case, and only the
patient's that of the patient. -/
theorem eq_of_subset_mem_pair {label : Case} {u agent patient : List Char} {given : Bundle}
    (hgiven : given ∈ [Bundle.ofLetters alignment.agent false agent,
      .ofLetters alignment.patient false patient])
    (hsub : Bundle.ofLetters label false u ⊆ given) :
    (label = alignment.agent →
      Bundle.ofLetters label false u = .ofLetters alignment.agent false agent) ∧
    (label = alignment.patient →
      Bundle.ofLetters label false u = .ofLetters alignment.patient false patient) := by
  have hne := alignment.agent_ne_patient
  rw [List.mem_cons, List.mem_singleton] at hgiven
  rcases hgiven with rfl | rfl
  · obtain rfl := (Bundle.label_eq_of_ofLetters_subset hsub).1
    exact ⟨fun _ => Bundle.eq_of_ofLetters_subset hsub, fun h => absurd h hne⟩
  · obtain rfl := (Bundle.label_eq_of_ofLetters_subset hsub).1
    exact ⟨fun h => absurd h.symm hne, fun _ => Bundle.eq_of_ofLetters_subset hsub⟩

theorem SpellsCell.eq_of_satisfies (hc : SpellsCell alignment c us) (hd : SpellsCell alignment d vs)
    (hvs : vs ≠ []) (h : c.satisfies d = true) : c = d := by
  rw [satisfies_iff] at h
  cases hd with
  | empty => exact absurd rfl hvs
  | sole =>
      rw [List.forall_mem_singleton] at h
      obtain ⟨given, hgiven, hsub⟩ := h
      cases hc with
      | empty => cases hgiven
      | sole =>
          obtain rfl := List.mem_singleton.mp hgiven
          rw [Bundle.eq_of_ofLetters_subset hsub]
      | both =>
          -- The condition asks for a sole argument, and the cell has none.
          rw [List.mem_cons, List.mem_singleton] at hgiven
          rcases hgiven with rfl | rfl
          · exact absurd ((Bundle.label_eq_of_ofLetters_subset hsub).2 rfl) Bool.false_ne_true
          · exact absurd ((Bundle.label_eq_of_ofLetters_subset hsub).2 rfl) Bool.false_ne_true
  | both =>
      rw [List.forall_mem_cons, List.forall_mem_singleton] at h
      obtain ⟨⟨given, hgiven, hsub⟩, given', hgiven', hsub'⟩ := h
      cases hc with
      | empty => cases hgiven
      | sole =>
          -- A sole argument has one case, and the condition asks for two.
          obtain rfl := List.mem_singleton.mp hgiven
          obtain rfl := List.mem_singleton.mp hgiven'
          have hagent := (Bundle.label_eq_of_ofLetters_subset hsub).1
          have hpatient := (Bundle.label_eq_of_ofLetters_subset hsub').1
          exact absurd (hagent.trans hpatient.symm) alignment.agent_ne_patient
      | both =>
          rw [(eq_of_subset_mem_pair hgiven hsub).1 rfl,
            (eq_of_subset_mem_pair hgiven' hsub').2 rfl]

theorem SpellsCell.satisfies_iff_eq (hc : SpellsCell alignment c us)
    (hd : SpellsCell alignment d vs) (hvs : vs ≠ []) : c.satisfies d = true ↔ c = d := by
  constructor
  · exact hc.eq_of_satisfies hd hvs
  · rintro rfl
    exact satisfies_refl c

end Structure

namespace Grammar

/-- Without rules the items inserted are those of the lexicon whose meaning the cell satisfies. -/
theorem inserted_of_rules_eq_nil {g : Grammar} (hg : g.rules = []) (cell : Structure) :
    g.inserted cell = g.lexicon.filter fun i => cell.satisfies i.meaning := by
  have hlexicon : g.generalised cell = g.lexicon := by
    rw [generalised, hg]
    exact (foldl_applyIn cell [] g.lexicon).symm
  rw [inserted, hlexicon]

variable {alignment : Alignment} {c d : Structure} {s t : String}

/-- The cell of a cell string satisfies that of another one, which is not empty, only if both are
the same cell. In a grammar without rules, an item whose meaning is a cell is inserted in this cell
alone. -/
theorem satisfies_iff_eq_of_readCell (hs : Structure.readCell alignment s = .ok c)
    (ht : Structure.readCell alignment t = .ok d) (hne : t ≠ "") :
    (c.satisfies d = true ↔ c = d) ∧
    ∀ g : Grammar, g.rules = [] → ∀ i ∈ g.lexicon, i.meaning = d →
      (i ∈ (g.realise c).value ↔ c = d) ∧
      ∀ (σ : Type) (o : Observer σ) (w : σ), ∃ items,
        (g.derive alignment s o w).value.1 = .ok items ∧ (i ∈ items ↔ c = d) := by
  have hc := ((Structure.readCell_eq_iff alignment s).1 c).mp hs
  have hd := ((Structure.readCell_eq_iff alignment t).1 d).mp ht
  have heq := hc.satisfies_iff_eq hd (mt Structure.sides_eq_nil_iff.mp hne)
  refine ⟨heq, fun g hg i hi hmeaning => ?_⟩
  have hinserted : i ∈ g.inserted c ↔ c = d := by
    rw [inserted_of_rules_eq_nil hg, List.mem_filter, hmeaning, heq]
    exact and_iff_right hi
  constructor
  · rw [realise_value]
    exact hinserted
  · intro σ o w
    refine ⟨g.inserted c, ?_, hinserted⟩
    rw [derive_value, hs]
    rfl

/-- A suffix for a first person singular agent and a third person plural patient. -/
def oneCell : Grammar where
  name := "One cell"
  transitive := true
  lexicon := [⟨"-x", ⟨[.ofLetters .ergative false ['1', 's'],
    .ofLetters .absolutive false ['3', 'p']]⟩⟩]

/-- The suffix is inserted in its cell under any spelling. It is not inserted in the cell of the
patient as a sole argument, though the bundle of the patient is part of that cell. -/
theorem oneCell_satisfies_iff_eq :
    ∃ c d, Structure.readCell .ergative "3p" = .ok c ∧
      Structure.readCell .ergative "S1>p33" = .ok d ∧
      (∃ b ∈ d.bundles, ∃ given ∈ c.bundles, b ⊆ given) ∧ ¬ c.satisfies d = true ∧
      ∀ i ∈ oneCell.lexicon, i ∈ (oneCell.realise d).value ∧ i ∉ (oneCell.realise c).value := by
  have hc : Structure.readCell .ergative "3p" = .ok
      ⟨[.ofLetters .absolutive true ['3', 'p']]⟩ := rfl
  have hd : Structure.readCell .ergative "S1>p33" = .ok
      ⟨[.ofLetters .ergative false ['1', 's'], .ofLetters .absolutive false ['3', 'p']]⟩ := rfl
  have ht : Structure.readCell .ergative "1s>3p" = .ok
      ⟨[.ofLetters .ergative false ['1', 's'], .ofLetters .absolutive false ['3', 'p']]⟩ := rfl
  obtain ⟨-, hsame⟩ := satisfies_iff_eq_of_readCell hd ht (by decide)
  obtain ⟨hsatisfies, hother⟩ := satisfies_iff_eq_of_readCell hc ht (by decide)
  refine ⟨_, _, hc, hd, by decide, mt hsatisfies.mp (by decide), ?_⟩
  intro i hi
  have hmeaning := congrArg Item.meaning (List.mem_singleton.mp hi)
  exact ⟨(hsame oneCell rfl i hi hmeaning).1.mpr rfl,
    mt (hother oneCell rfl i hi hmeaning).1.mp (by decide)⟩

end Grammar

end Agreement
