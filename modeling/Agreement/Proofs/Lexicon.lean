import Agreement.Proofs.Insertion
import Agreement.Proofs.Paradigm

/-!
# The lexicon item by item

The rules look at the cell and at nothing else, so each item of the lexicon is generalised and
inserted as it would be without the others. What two lexicons insert together is therefore what they
insert one after the other, in single cells and throughout a paradigm.
-/

namespace Agreement

theorem Item.spellOut_append (xs ys : List Item) :
    spellOut (xs ++ ys) = spellOut xs ++ spellOut ys := by
  rw [spellOut, List.map_append, String.join_append]
  rfl

namespace Grammar

def withLexicon (g : Grammar) (items : List Item) : Grammar :=
  { g with lexicon := items }

variable (g : Grammar) (xs ys : List Item)

/-! ## Cells -/

section

variable (cell : Structure)

theorem inserted_withLexicon_append :
    (g.withLexicon (xs ++ ys)).inserted cell =
      (g.withLexicon xs).inserted cell ++ (g.withLexicon ys).inserted cell := by
  simp only [inserted, generalised, withLexicon, List.map_append, List.filter_append]

theorem inserted_withLexicon_singleton_iff {i j : Item} :
    (g.withLexicon [i]).inserted cell = [j] ↔
      i.withoutAll (deletions cell g.rules) = j ∧ cell.satisfies j.meaning = true := by
  simp only [inserted, generalised, withLexicon, List.map_cons, List.map_nil]
  constructor
  · intro h
    -- What is left after the filter was in the list before, which has but one item.
    have hj : j ∈ [i.withoutAll (deletions cell g.rules)].filter fun i => cell.satisfies i.meaning :=
      h ▸ List.mem_singleton_self j
    obtain ⟨hmem, hsat⟩ := List.mem_filter.mp hj
    exact ⟨(List.mem_singleton.mp hmem).symm, hsat⟩
  · rintro ⟨rfl, hsat⟩
    exact List.filter_eq_self.mpr (List.forall_mem_singleton.mpr hsat)

variable {g cell} in
/-- What stands at a position of a lexicon is inserted as it is on its own. -/
theorem mem_insertions_withLexicon {items : List Item} {j : Item} {n : Nat} :
    (j, n) ∈ (g.withLexicon items).insertions cell ↔
      ∃ i, items[n]? = some i ∧ (g.withLexicon [i]).inserted cell = [j] := by
  simp only [mem_insertions, inserted_withLexicon_singleton_iff]
  rfl

end

/-! ## Paradigms -/

open Paradigm

/-- A cell with the items of two cells one after the other, unless the position is excluded. -/
inductive Joins : Cell → Cell → Cell → Prop
  | excluded : Joins .excluded .excluded .excluded
  | realised (name : String) (items items' : List Item) :
      Joins (.realised name items) (.realised name items') (.realised name (items ++ items'))

theorem Joins.isGap_iff {a b c : Cell} (h : Joins a b c) :
    c.isGap = true ↔ a.isGap = true ∧ b.isGap = true := by
  cases h with
  | excluded => simp [Cell.isGap]
  | realised name items items' => simp [Cell.isGap]

variable (alignment : Alignment)

theorem soleCell_joins (subject : Argument) :
    Joins ((g.withLexicon xs).soleCell alignment subject)
      ((g.withLexicon ys).soleCell alignment subject)
      ((g.withLexicon (xs ++ ys)).soleCell alignment subject) := by
  simp only [soleCell, inserted_withLexicon_append]
  exact .realised _ _ _

theorem pairCell_joins (subject object : Argument) :
    Joins ((g.withLexicon xs).pairCell alignment subject object)
      ((g.withLexicon ys).pairCell alignment subject object)
      ((g.withLexicon (xs ++ ys)).pairCell alignment subject object) := by
  simp only [pairCell, inserted_withLexicon_append]
  split
  · exact .excluded
  · exact .realised _ _ _

/-- The items do not decide which positions there are. -/
theorem cells_joins {subject : Argument} {object : Option Argument} {c : Cell}
    (hc : ((g.withLexicon (xs ++ ys)).cells alignment).cell? subject object = some c) :
    ∃ a b, ((g.withLexicon xs).cells alignment).cell? subject object = some a ∧
      ((g.withLexicon ys).cells alignment).cell? subject object = some b ∧ Joins a b c := by
  cases object with
  | none =>
      rw [cell?_none, Option.ite_none_right_eq_some, Option.some.injEq] at hc
      obtain ⟨hs, rfl⟩ := hc
      exact ⟨_, _, (cell?_none _ _ _).trans (if_pos hs), (cell?_none _ _ _).trans (if_pos hs),
        g.soleCell_joins xs ys alignment subject⟩
  | some object =>
      rw [cell?_some, Option.ite_none_right_eq_some, Option.some.injEq] at hc
      obtain ⟨hs, rfl⟩ := hc
      exact ⟨_, _, (cell?_some _ _ _ _).trans (if_pos hs), (cell?_some _ _ _ _).trans (if_pos hs),
        g.pairCell_joins xs ys alignment subject object⟩

/-- Two lexicons together are realised with the items that they are realised with one by one, and so
are their forms. An item is inserted or not, and with which meaning, as if there were no other one,
so it makes no difference to it if others are added, taken out or moved. In a paradigm each position
that is not excluded holds the items of both, and it is a gap exactly if it is a gap of both. -/
theorem realise_item_by_item :
    (∀ cell,
      ((g.withLexicon (xs ++ ys)).realise cell).value =
        ((g.withLexicon xs).realise cell).value ++ ((g.withLexicon ys).realise cell).value ∧
      Item.spellOut ((g.withLexicon (xs ++ ys)).realise cell).value =
        Item.spellOut ((g.withLexicon xs).realise cell).value ++
          Item.spellOut ((g.withLexicon ys).realise cell).value ∧
      (∀ items, ((g.withLexicon items).realise cell).value =
        ((g.withLexicon items).insertions cell).map Prod.fst) ∧
      (∀ items j n, (j, n) ∈ (g.withLexicon items).insertions cell ↔
        ∃ i, items[n]? = some i ∧ ((g.withLexicon [i]).realise cell).value = [j]) ∧
      ∀ (items items' : List Item) (n n' : Nat), items[n]? = items'[n']? →
        ∀ j, (j, n) ∈ (g.withLexicon items).insertions cell ↔
          (j, n') ∈ (g.withLexicon items').insertions cell) ∧
    ∃ p q r, ((g.withLexicon xs).buildParadigm alignment).value = .ok p ∧
      ((g.withLexicon ys).buildParadigm alignment).value = .ok q ∧
      ((g.withLexicon (xs ++ ys)).buildParadigm alignment).value = .ok r ∧
      r.arguments = p.arguments ∧ r.arguments = q.arguments ∧
      r.transitive = p.transitive ∧ r.transitive = q.transitive ∧
      ∀ s o c, r.cell? s o = some c →
        ∃ a b, p.cell? s o = some a ∧ q.cell? s o = some b ∧ Joins a b c ∧
          (c.isGap = true ↔ a.isGap = true ∧ b.isGap = true) := by
  constructor
  · intro cell
    simp only [realise_value]
    refine ⟨g.inserted_withLexicon_append xs ys cell, ?_, fun items => ?_,
      fun items j n => mem_insertions_withLexicon, fun items items' n n' hsame j => ?_⟩
    · rw [inserted_withLexicon_append, Item.spellOut_append]
    · rw [map_fst_insertions]
    · rw [mem_insertions_withLexicon, mem_insertions_withLexicon, hsame]
  · refine ⟨_, _, _, buildParadigm_value _ _, buildParadigm_value _ _, buildParadigm_value _ _,
      rfl, rfl, rfl, rfl, fun s o c hc => ?_⟩
    obtain ⟨a, b, ha, hb, hjoins⟩ := g.cells_joins xs ys alignment hc
    exact ⟨a, b, ha, hb, hjoins, hjoins.isGap_iff⟩

end Grammar

end Agreement
