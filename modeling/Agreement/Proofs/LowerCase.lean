import Agreement.Structure.CellString

/-!
# Arguments in lower case

An argument may be written in capitals. Of all characters only `I S D P` become letters of an
argument in lower case, so a text is an argument in lower case exactly if it consists of those and
of the letters themselves.
-/

namespace Agreement

/-- The characters that an argument may be written with. -/
def argumentCharacters : List Char :=
  ['1', '2', '3', 'i', 'I', 's', 'S', 'd', 'D', 'p', 'P']

theorem argumentAlphabet_subset : argumentAlphabet ⊆ argumentCharacters := by
  simp [argumentAlphabet, argumentCharacters]

namespace Text

/-! ## Characters -/

/-- The table of cases has no way into the alphabet of arguments but from its capitals. -/
theorem caseRuns_into_argumentAlphabet {r : CaseRun} (hr : r ∈ caseRuns) {t : Char}
    (ht : t ∈ argumentAlphabet) (hhas : r.has (t.toNat - r.offset).toNat = true) :
    Char.ofNat (t.toNat - r.offset).toNat ∈ argumentCharacters := by
  have hall : (caseRuns.all fun r => argumentAlphabet.all fun t =>
      !r.has (t.toNat - r.offset).toNat ||
        argumentCharacters.contains (Char.ofNat (t.toNat - r.offset).toNat)) = true := by
    decide +kernel
  have h := List.all_eq_true.mp (List.all_eq_true.mp hall r hr) t ht
  simpa [hhas] using h

/-- A number that is no code point gives the character 0. -/
theorem toNat_ofNat_eq_self {n : Nat} (h : (Char.ofNat n).toNat ≠ 0) :
    (Char.ofNat n).toNat = n := by
  by_cases hvalid : n.isValidChar
  · have hof : Char.ofNat n = Char.ofNatAux n hvalid := dif_pos hvalid
    exact congrArg Char.toNat hof
  · have hof : Char.ofNat n = Char.ofNat 0 := dif_neg hvalid
    exact absurd (congrArg Char.toNat hof) h

theorem lowerChar_mem_iff {c : Char} : lowerChar c ∈ argumentAlphabet ↔ c ∈ argumentCharacters := by
  constructor
  · intro h
    unfold lowerChar at h
    split at h
    · next r hr =>
        have hpos : ∀ t ∈ argumentAlphabet, t.toNat ≠ 0 := by simp [argumentAlphabet]
        have hlow := toNat_ofNat_eq_self (hpos _ h)
        -- The capital is as far from its small letter as the run says.
        have hc : ((Char.ofNat (c.toNat + r.offset).toNat).toNat - r.offset).toNat = c.toNat := by
          have hne := hpos _ h
          omega
        have hhas : r.has c.toNat = true := by simpa using List.find?_some hr
        have hmem := caseRuns_into_argumentAlphabet (List.mem_of_find?_eq_some hr) h
        rw [hc, Char.ofNat_toNat] at hmem
        exact hmem hhas
    · exact argumentAlphabet_subset h
  · intro h
    have hall : argumentCharacters.all (fun c => argumentAlphabet.contains (lowerChar c)) = true :=
      by decide +kernel
    simpa using List.all_eq_true.mp hall c h

/-! ## Texts -/

/-- Where no character depends on its neighbours, or becomes two, they are lowered one by one. -/
theorem lowerAfter_eq_map {s : List Char} (before : List Char)
    (h : ∀ c ∈ s, c ≠ 'İ' ∧ c ≠ 'Σ') : lowerAfter before s = s.map lowerChar := by
  induction s generalizing before with
  | nil => rfl
  | cons c s ih =>
      rw [List.forall_mem_cons] at h
      obtain ⟨⟨hi, hsigma⟩, hs⟩ := h
      simp only [lowerAfter, if_neg hi, if_neg hsigma, ih _ hs, List.map_cons,
        List.singleton_append]

theorem lower_eq_map {s : List Char} (h : ∀ c ∈ s, c ∈ argumentCharacters) :
    lower s = s.map lowerChar := by
  have hplain : ∀ c ∈ argumentCharacters, c ≠ 'İ' ∧ c ≠ 'Σ' := by simp [argumentCharacters]
  exact lowerAfter_eq_map [] fun c hc => hplain c (h c hc)

theorem lower_eq_self {s : List Char} (h : ∀ c ∈ s, c ∈ argumentAlphabet) : lower s = s := by
  have hall : argumentAlphabet.all (fun c => lowerChar c == c) = true := by decide +kernel
  have hlow : ∀ c ∈ s, lowerChar c = c := fun c hc => by
    simpa using List.all_eq_true.mp hall c (h c hc)
  rw [lower_eq_map fun c hc => argumentAlphabet_subset (h c hc)]
  exact (List.map_congr_left hlow).trans (List.map_id s)

theorem lower_eq_nil_iff {s : List Char} : lower s = [] ↔ s = [] := by
  cases s with
  | nil => simp [lower, lowerAfter]
  | cons c s =>
      simp only [lower, lowerAfter]
      split
      · simp
      · split <;> simp

theorem forall_mem_lowerAfter_iff (before s : List Char) :
    (∀ c ∈ lowerAfter before s, c ∈ argumentAlphabet) ↔ ∀ c ∈ s, c ∈ argumentCharacters := by
  induction s generalizing before with
  | nil => simp [lowerAfter]
  | cons c s ih =>
      rw [lowerAfter, List.forall_mem_append, ih, List.forall_mem_cons]
      refine and_congr_left fun _ => ?_
      -- Of the two characters that are not lowered on their own, neither is left in the alphabet:
      -- one leaves a mark behind its `i`, and the other is a sigma in either form.
      by_cases hi : c = 'İ'
      · subst hi
        simp [argumentAlphabet, argumentCharacters]
      · by_cases hsigma : c = 'Σ'
        · subst hsigma
          simp only [if_neg hi, if_pos]
          split <;> simp [argumentAlphabet, argumentCharacters]
        · simp only [if_neg hi, if_neg hsigma, List.forall_mem_singleton, lowerChar_mem_iff]

/-- A text is over the alphabet of arguments in lower case exactly if it was so before, capitals
included. -/
theorem forall_mem_lower_iff {s : List Char} :
    (∀ c ∈ lower s, c ∈ argumentAlphabet) ↔ ∀ c ∈ s, c ∈ argumentCharacters :=
  forall_mem_lowerAfter_iff [] s

end Text

end Agreement
