import Agreement.Proofs.Realisation

/-!
# Insertions

What is inserted into a cell, with the positions in the lexicon. A grammar that deletes more, in a
cell that says more, inserts the same items at least, and asks for less with each of them.
-/

namespace Agreement

/-! ## Weaker items -/

namespace Item

/-- An item with the same form and a weaker meaning. -/
def Weakens (i i' : Item) : Prop :=
  i'.form = i.form ∧ i.meaning.Weakens i'.meaning

/-- The more is deleted, the less an item asks for. -/
theorem withoutAll_weakens (i : Item) {ds es : List Bundle} (h : ds ⊆ es) :
    (i.withoutAll ds).Weakens (i.withoutAll es) := by
  refine ⟨rfl, ?_⟩
  unfold Structure.Weakens withoutAll
  rw [List.forall₂_map_left_iff, List.forall₂_map_right_iff, List.forall₂_same]
  intro b _ f hf
  obtain ⟨hfb, hfes⟩ := Bundle.mem_withoutAll.mp hf
  exact Bundle.mem_withoutAll.mpr ⟨hfb, fun d hd => hfes d (h hd)⟩

end Item

/-! ## Insertions and their positions -/

namespace Grammar

/-- The items inserted into a cell, each with its position in the lexicon. -/
def insertions (g : Grammar) (cell : Structure) : List (Item × Nat) :=
  (g.lexicon.zipIdx.map fun p => (p.1.withoutAll (deletions cell g.rules), p.2)).filter fun p =>
    cell.satisfies p.1.meaning

variable (g : Grammar) (cell : Structure)

theorem map_fst_insertions : (g.insertions cell).map Prod.fst = g.inserted cell := by
  have hitems : g.generalised cell =
      (g.lexicon.zipIdx.map fun p => (p.1.withoutAll (deletions cell g.rules), p.2)).map
        Prod.fst := by
    rw [List.map_map, generalised]
    conv_lhs => rw [← List.zipIdx_map_fst 0 g.lexicon, List.map_map]
    rfl
  rw [inserted, hitems, List.filter_map]
  rfl

variable {g cell} in
/-- Exactly the lexicon items at which the cell satisfies what is left of the meaning. -/
theorem mem_insertions {i : Item} {n : Nat} :
    (i, n) ∈ g.insertions cell ↔
      ∃ m, g.lexicon[n]? = some m ∧ m.withoutAll (deletions cell g.rules) = i ∧
        cell.satisfies i.meaning = true := by
  simp only [insertions, List.mem_filter, List.mem_map, Prod.exists, Prod.mk.injEq,
    List.mem_zipIdx_iff_getElem?]
  constructor
  · rintro ⟨⟨m, _, hm, hmi, rfl⟩, hi⟩
    exact ⟨m, hm, hmi, hi⟩
  · rintro ⟨m, hm, hmi, hi⟩
    exact ⟨⟨m, n, hm, hmi, rfl⟩, hi⟩

theorem insertions_eq_map_filter :
    g.insertions cell =
      (g.lexicon.zipIdx.filter fun p =>
        cell.satisfies (p.1.withoutAll (deletions cell g.rules)).meaning).map
          fun p => (p.1.withoutAll (deletions cell g.rules), p.2) := by
  rw [insertions, List.filter_map]
  rfl

/-! ## Nothing is lost -/

/-- Whether what `g` does in the cell `c` is part of what `h` does in the cell `d`: the lexicon is
the same, `d` has the information of `c`, and `h` deletes there all that `g` deletes in `c`. -/
structure Covers (h : Grammar) (d : Structure) (g : Grammar) (c : Structure) : Prop where
  lexicon_eq : h.lexicon = g.lexicon
  satisfies : d.satisfies c = true
  deletions_subset : deletions c g.rules ⊆ deletions d h.rules

namespace Covers

variable {g h : Grammar} {c d : Structure}

/-- An item of the lexicon that is inserted stays inserted. -/
theorem satisfies_meaning (hcov : h.Covers d g c) {i : Item}
    (hi : c.satisfies (i.withoutAll (deletions c g.rules)).meaning = true) :
    d.satisfies (i.withoutAll (deletions d h.rules)).meaning = true :=
  (i.withoutAll_weakens hcov.deletions_subset).2.satisfies
    (Structure.satisfies_trans hcov.satisfies hi)

theorem filter_sublist (hcov : h.Covers d g c) :
    (g.lexicon.zipIdx.filter fun p =>
      c.satisfies (p.1.withoutAll (deletions c g.rules)).meaning).Sublist
    (h.lexicon.zipIdx.filter fun p =>
      d.satisfies (p.1.withoutAll (deletions d h.rules)).meaning) := by
  rw [hcov.lexicon_eq]
  exact List.monotone_filter_right _ fun _ hi => hcov.satisfies_meaning hi

theorem positions_sublist (hcov : h.Covers d g c) :
    ((g.insertions c).map Prod.snd).Sublist ((h.insertions d).map Prod.snd) := by
  rw [insertions_eq_map_filter, insertions_eq_map_filter, List.map_map, List.map_map]
  exact hcov.filter_sublist.map Prod.snd

theorem forms_sublist (hcov : h.Covers d g c) :
    ((g.inserted c).map Item.form).Sublist ((h.inserted d).map Item.form) := by
  rw [← map_fst_insertions, ← map_fst_insertions, insertions_eq_map_filter,
    insertions_eq_map_filter, List.map_map, List.map_map, List.map_map, List.map_map]
  exact hcov.filter_sublist.map fun p => p.1.form

theorem exists_mem_insertions (hcov : h.Covers d g c) {i : Item} {n : Nat}
    (hi : (i, n) ∈ g.insertions c) : ∃ i', (i', n) ∈ h.insertions d ∧ i.Weakens i' := by
  obtain ⟨m, hm, rfl, hsat⟩ := mem_insertions.mp hi
  rw [← hcov.lexicon_eq] at hm
  exact ⟨m.withoutAll (deletions d h.rules),
    mem_insertions.mpr ⟨m, hm, rfl, hcov.satisfies_meaning hsat⟩,
    m.withoutAll_weakens hcov.deletions_subset⟩

theorem inserted_eq_nil (hcov : h.Covers d g c) (hd : h.inserted d = []) :
    g.inserted c = [] := by
  have hforms := hcov.forms_sublist
  rw [hd, List.map_nil, List.sublist_nil, List.map_eq_nil_iff] at hforms
  exact hforms

end Covers

end Grammar

end Agreement
