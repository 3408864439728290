import Agreement.Bundle.Basic

/-!
# Bundles as sets of features

A feature belongs to a bundle if its slot holds exactly that feature. The operations on bundles are
described by the features that belong to their results, and a bundle is determined by its features.
-/

namespace Agreement

theorem Attribute.mem_all (a : Attribute) : a ∈ Attribute.all := by
  cases a <;> decide

namespace Bundle

/-! ## Membership -/

instance : Membership Feature Bundle where
  mem b f := b.contains f = true

instance (f : Feature) (b : Bundle) : Decidable (f ∈ b) :=
  inferInstanceAs (Decidable (b.contains f = true))

variable {b c : Bundle} {f d : Feature}

theorem contains_iff : b.contains f = true ↔ f ∈ b := Iff.rfl

theorem case_mem_iff {l : Case} : .case l ∈ b ↔ b.case = some l := by
  rw [← contains_iff]
  simp [contains]

theorem signed_mem_iff {a : Attribute} {s : Sign} : .signed a s ∈ b ↔ b.sign a = some s := by
  rw [← contains_iff]
  simp [contains]

/-- The printed features are the members. -/
theorem mem_features : f ∈ b.features ↔ f ∈ b := by
  cases f with
  | case l => simp [features, case_mem_iff]
  | signed a s => simp [features, signed_mem_iff, Attribute.mem_all]

instance (p : Feature → Prop) [DecidablePred p] (b : Bundle) : Decidable (∀ f ∈ b, p f) :=
  decidable_of_iff (∀ f ∈ b.features, p f) (by simp only [mem_features])

/-- A bundle is determined by its features. -/
theorem ext_mem (h : ∀ f, f ∈ b ↔ f ∈ c) : b = c := by
  have hcase : b.case = c.case := Option.ext fun l => by
    simpa only [case_mem_iff] using h (.case l)
  have hsign : ∀ a, b.sign a = c.sign a := fun a => Option.ext fun s => by
    simpa only [signed_mem_iff] using h (.signed a s)
  obtain ⟨_, _, _, _, _, _, _⟩ := b
  obtain ⟨_, _, _, _, _, _, _⟩ := c
  rw [mk.injEq]
  exact ⟨hcase, hsign .person1, hsign .person2, hsign .person3, hsign .singular, hsign .plural,
    hsign .intransitive⟩

theorem isEmpty_iff : b.isEmpty = true ↔ ∀ f, f ∉ b := by
  simp only [isEmpty, Bool.and_eq_true, Option.isNone_iff_eq_none, List.all_eq_true]
  constructor
  · rintro ⟨hcase, hsign⟩ f hf
    cases f with
    | case l => simp [case_mem_iff, hcase] at hf
    | signed a s => simp [signed_mem_iff, hsign a a.mem_all] at hf
  · intro h
    refine ⟨Option.eq_none_iff_forall_ne_some.mpr fun l hl => h (.case l) (case_mem_iff.mpr hl),
      fun a _ => Option.eq_none_iff_forall_ne_some.mpr fun s hs => ?_⟩
    exact h (.signed a s) (signed_mem_iff.mpr hs)

/-! ## Inclusion -/

instance : HasSubset Bundle where
  Subset b c := ∀ ⦃f⦄, f ∈ b → f ∈ c

theorem subset_iff : b ⊆ c ↔ ∀ f ∈ b, f ∈ c := Iff.rfl

theorem within_iff : b.within c = true ↔ b ⊆ c := by
  simp only [within, List.all_eq_true, mem_features, contains_iff, subset_iff]

instance (b c : Bundle) : Decidable (b ⊆ c) := decidable_of_iff _ within_iff

theorem subset_trans {a : Bundle} (hab : a ⊆ b) (hbc : b ⊆ c) : a ⊆ c := fun _ hf => hbc (hab hf)

/-! ## Deletion -/

theorem sign_setSign (b : Bundle) (v : Option Sign) (a a' : Attribute) :
    (b.setSign v a).sign a' = if a' = a then v else b.sign a' := by
  cases a <;> cases a' <;> rfl

theorem case_setSign (b : Bundle) (v : Option Sign) (a : Attribute) :
    (b.setSign v a).case = b.case := by
  cases a <;> rfl

theorem mem_erase : f ∈ b.erase d ↔ f ∈ b ∧ f ≠ d := by
  unfold erase
  split
  · rename_i hd
    rw [contains_iff] at hd
    cases d with
    | case l =>
        cases f with
        | case l' =>
            -- The case slot is empty now, and it held nothing but the erased case before.
            rw [case_mem_iff] at hd
            simp only [case_mem_iff, hd]
            simp [eq_comm]
        | signed a s => simp [signed_mem_iff, sign]
    | signed a s =>
        cases f with
        | case l' => simp [case_mem_iff, case_setSign]
        | signed a' s' =>
            rw [signed_mem_iff] at hd
            simp only [signed_mem_iff, sign_setSign]
            by_cases h : a' = a
            · subst h
              simp [hd, eq_comm]
            · simp [h]
  · rename_i hd
    rw [contains_iff] at hd
    refine ⟨fun hf => ⟨hf, ?_⟩, And.left⟩
    rintro rfl
    exact hd hf

theorem mem_foldl_erase {ds : List Feature} : f ∈ ds.foldl erase b ↔ f ∈ b ∧ f ∉ ds := by
  induction ds generalizing b with
  | nil => simp
  | cons d ds ih =>
      rw [List.foldl_cons, ih, mem_erase, List.mem_cons, not_or, and_assoc]

/-- A deletion takes out the features of the deleted bundle and nothing else. -/
theorem mem_without : f ∈ b.without c ↔ f ∈ b ∧ f ∉ c := by
  rw [without, mem_foldl_erase, mem_features]

end Bundle

end Agreement
