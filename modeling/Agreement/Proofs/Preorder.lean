import Agreement.Proofs.Slots
import Agreement.Proofs.Structure

/-!
# Satisfaction as a preorder

Structures are compared by their information: a cell satisfies a condition if it says all that the
condition says. This is a preorder, in which a row of conditions is as much as each of them. What is
added to a cell in free slots or as bundles only adds to it, and what is deleted from a condition
only takes away from it.
-/

namespace Agreement

namespace Bundle

variable {b : Bundle} {f : Feature}

/-- A feature put into a free slot replaces nothing. -/
theorem subset_insert (h : b.occupies f = false) : b ⊆ b.insert f := fun g hg =>
  mem_insert.mpr (Or.inr ⟨hg, occupies_eq_false_iff.mp h g hg⟩)

theorem without_subset (b d : Bundle) : b.without d ⊆ b := fun _ hf => (mem_without.mp hf).1

end Bundle

namespace Structure

variable {a b c : Structure}

theorem satisfies_append_iff :
    a.satisfies ⟨b.bundles ++ c.bundles⟩ = true ↔ a.satisfies b = true ∧ a.satisfies c = true := by
  simp only [satisfies_iff, List.forall_mem_append]

/-- Of a condition it matters which bundles it has, but not in which order or how often. -/
theorem satisfies_congr_bundles (h : ∀ x, x ∈ b.bundles ↔ x ∈ c.bundles) :
    a.satisfies b = a.satisfies c := by
  rw [Bool.eq_iff_iff, satisfies_iff, satisfies_iff]
  exact forall_congr' fun x => imp_congr_left (h x)

/-- The structure with a feature put into a slot of its bundle number `i`. -/
def insertAt (s : Structure) (i : Nat) (f : Feature) : Structure :=
  ⟨s.bundles.modify i (·.insert f)⟩

theorem insertAt_satisfies {i : Nat} {x : Bundle} {f : Feature} (hx : a.bundles[i]? = some x)
    (hfree : x.occupies f = false) : (a.insertAt i f).satisfies a = true := by
  rw [satisfies_iff]
  intro wanted hwanted
  obtain ⟨j, hj⟩ := List.mem_iff_getElem?.mp hwanted
  have hgiven : (a.insertAt i f).bundles[j]? =
      some (if i = j then wanted.insert f else wanted) := by
    rw [insertAt, List.getElem?_modify, hj]
    rfl
  refine ⟨_, List.mem_of_getElem? hgiven, ?_⟩
  by_cases hij : i = j
  · obtain rfl : x = wanted := by
      rw [← hij, hx] at hj
      exact Option.some.inj hj
    rw [if_pos hij]
    exact Bundle.subset_insert hfree
  · rw [if_neg hij]
    exact fun _ hf => hf

theorem weakens_without (b : Structure) (d : Bundle) : b.Weakens (b.without d) := by
  unfold Weakens without
  rw [List.forall₂_map_right_iff, List.forall₂_same]
  exact fun x _ => x.without_subset d

/-- Satisfaction is a preorder of structures by their information. A cell satisfies several
conditions together if it satisfies each, in any order and however often. It goes on to satisfy them
with a feature more in a free slot or with more bundles, and as far as features are deleted from
them. -/
theorem satisfies_preorder (a b c : Structure) :
    a.satisfies a = true ∧
    (a.satisfies b = true → b.satisfies c = true → a.satisfies c = true) ∧
    (a.satisfies ⟨b.bundles ++ c.bundles⟩ = true ↔
      a.satisfies b = true ∧ a.satisfies c = true) ∧
    (∀ b' : Structure, (∀ x, x ∈ b'.bundles ↔ x ∈ b.bundles) → a.satisfies b' = a.satisfies b) ∧
    (∀ i x f, a.bundles[i]? = some x → x.occupies f = false → a.satisfies b = true →
      (a.insertAt i f).satisfies b = true) ∧
    (∀ a' : Structure, a.bundles ⊆ a'.bundles → a.satisfies b = true → a'.satisfies b = true) ∧
    ∀ d : Bundle, a.satisfies b = true → a.satisfies (b.without d) = true := by
  refine ⟨satisfies_refl a, satisfies_trans, satisfies_append_iff,
    fun _ h => satisfies_congr_bundles h, ?_, ?_, ?_⟩
  · intro i x f hx hfree hab
    exact satisfies_trans (insertAt_satisfies hx hfree) hab
  · intro a' hsub hab
    exact satisfies_trans (satisfies_of_subset hsub) hab
  · intro d hab
    exact (b.weakens_without d).satisfies hab

/-- A feature in a slot that is filled takes the place of another one, which a condition may ask
for. -/
example :
    let a : Structure := ⟨[.of [.plus .person1, .minus .plural], .of [.plus .person3]]⟩
    let b : Structure := ⟨[.of [.plus .person1]]⟩
    a.satisfies b = true ∧ (a.insertAt 0 (.plus .singular)).satisfies b = true ∧
      (a.insertAt 0 (.minus .person1)).satisfies b = false := by
  decide

end Structure

end Agreement
