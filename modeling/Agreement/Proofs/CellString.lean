import Mathlib.Data.List.TakeDrop
import Mathlib.Data.List.TakeWhile
import Agreement.Argument
import Agreement.Proofs.LowerCase

/-!
# Reading back the cell strings of a paradigm

A cell string is taken apart at its first `>`, and what an argument prints reads as its own bundle.
-/

namespace Agreement

/-! ## Arguments -/

namespace Argument

variable (a : Argument)

theorem text_mem_alphabet : ∀ c ∈ a.text.toList, c ∈ argumentAlphabet := by
  have hall : a.text.toList.all argumentAlphabet.contains = true := by
    obtain ⟨person, number⟩ := a
    cases person <;> cases number <;> rfl
  intro c hc
  simpa using List.all_eq_true.mp hall c hc

theorem text_ne_nil : a.text.toList ≠ [] := by
  obtain ⟨person, number⟩ := a
  cases person <;> cases number <;> decide

theorem delimiter_not_mem_text : '>' ∉ a.text.toList := fun h =>
  absurd (a.text_mem_alphabet _ h) (by decide)

/-- The letters of an argument spell its person and number. -/
theorem ofLetters_text (label : Case) (sole : Bool) :
    Bundle.ofLetters label sole a.text.toList = a.bundle label sole := by
  obtain ⟨person, number⟩ := a
  cases person <;> cases number <;> rfl

end Argument

namespace Structure

theorem readSide_text (a : Argument) (cell : String) (label : Case) (sole : Bool) :
    readSide cell label sole a.text.toList = .ok (a.bundle label sole) := by
  have hnone : a.text.toList.find? (!argumentAlphabet.contains ·) = none := by
    rw [List.find?_eq_none]
    intro c hc
    simp [a.text_mem_alphabet c hc]
  rw [readSide, List.isEmpty_eq_false_iff.mpr a.text_ne_nil, if_neg Bool.false_ne_true,
    Bundle.readArgument, Text.lower_eq_self a.text_mem_alphabet]
  simp only [hnone, List.isEmpty_eq_false_iff.mpr a.text_ne_nil, if_neg Bool.false_ne_true,
    a.ofLetters_text]

/-! ## Cell strings -/

variable (alignment : Alignment)

theorem ne_delimiter {s : List Char} (h : '>' ∉ s) : ∀ c ∈ s, (c != '>') = true := by
  intro c hc
  rw [bne_iff_ne]
  rintro rfl
  exact h hc

/-- A cell string without `>` is read as a sole argument. -/
theorem readCell_of_not_mem {cell : String} (hne : cell.toList ≠ []) (h : '>' ∉ cell.toList) :
    readCell alignment cell =
      (do pure ⟨[← readSide cell alignment.sole true cell.toList]⟩) := by
  have hspan : cell.toList.span (· != '>') = (cell.toList, []) := by
    rw [List.span_eq_takeWhile_dropWhile, List.takeWhile_eq_self_iff.mpr (ne_delimiter h),
      List.dropWhile_eq_nil_iff.mpr (ne_delimiter h)]
  simp only [readCell, List.isEmpty_eq_false_iff.mpr hne, if_neg Bool.false_ne_true, hspan]

/-- A cell string is taken apart at its first `>`, and refused if there is a second one. -/
theorem readCell_of_eq_append {cell : String} {agent patient : List Char}
    (hcell : cell.toList = agent ++ '>' :: patient) (hagent : '>' ∉ agent) :
    readCell alignment cell =
      if '>' ∈ patient then .error (.ambiguousDelimiter cell)
      else (do
        let agent ← readSide cell alignment.agent false agent
        let patient ← readSide cell alignment.patient false patient
        pure ⟨[agent, patient]⟩) := by
  have hspan : cell.toList.span (· != '>') = (agent, '>' :: patient) := by
    rw [hcell, List.span_eq_takeWhile_dropWhile,
      List.takeWhile_append_of_pos (ne_delimiter hagent),
      List.dropWhile_append_of_pos (ne_delimiter hagent)]
    simp
  have hne : cell.toList.isEmpty = false := by simp [hcell]
  simp only [readCell, hne, if_neg Bool.false_ne_true, hspan, List.contains_iff_mem]

theorem readCell_text (a : Argument) :
    readCell alignment a.text = .ok ⟨[a.bundle alignment.sole true]⟩ := by
  rw [readCell_of_not_mem alignment a.text_ne_nil a.delimiter_not_mem_text, readSide_text]
  rfl

theorem readCell_texts (agent patient : Argument) :
    readCell alignment (agent.text ++ ">" ++ patient.text) =
      .ok ⟨[agent.bundle alignment.agent false, patient.bundle alignment.patient false]⟩ := by
  have hcell : (agent.text ++ ">" ++ patient.text).toList =
      agent.text.toList ++ '>' :: patient.text.toList := by
    simp
  rw [readCell_of_eq_append alignment hcell agent.delimiter_not_mem_text,
    if_neg patient.delimiter_not_mem_text, readSide_text, readSide_text]
  rfl

end Structure

end Agreement
