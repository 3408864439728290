import Mathlib.Data.List.TakeWhile
import Agreement.Text.Blank

/-!
# White space and words

A text is its words and the white space between and around them. Trimming takes white space away at
the ends, so it leaves a bracketed text with the brackets at its ends.
-/

namespace Agreement.Text

def Blank (w : List Char) : Prop :=
  ∀ c ∈ w, isBlank c = true

/-- Words with white space between them and, if need be, around them: what follows a word, if
anything does, begins with white space. -/
inductive Spaced : List (List Char) → List Char → Prop
  | nil {w} : Blank w → Spaced [] w
  | cons {w u s us} : Blank w → u ≠ [] → (∀ c ∈ u, isBlank c = false) →
      (∀ c ∈ s.head?, isBlank c = true) → Spaced us s → Spaced (u :: us) (w ++ u ++ s)

variable {w w' u s : List Char} {us : List (List Char)} {c : Char}

theorem blank_nil : Blank [] := List.forall_mem_nil _

theorem blank_cons : Blank (c :: w) ↔ isBlank c = true ∧ Blank w :=
  List.forall_mem_cons

theorem Blank.not_mem (hw : Blank w) (hc : isBlank c = false) : c ∉ w := by
  intro hmem
  rw [hw c hmem] at hc
  cases hc

theorem words_cons_blank (hc : isBlank c = true) (s : List Char) : words (c :: s) = words s := by
  cases s with
  | nil => simp [words, hc]
  | cons d s => simp [words, hc]

theorem words_blank_append (hw : Blank w) (s : List Char) : words (w ++ s) = words s := by
  induction w with
  | nil => rfl
  | cons c w ih =>
      obtain ⟨hc, hw⟩ := blank_cons.mp hw
      rw [List.cons_append, words_cons_blank hc, ih hw]

/-- A word ends at the first white space after it, or at the end. -/
theorem words_word_append (hne : u ≠ []) (hu : ∀ c ∈ u, isBlank c = false)
    (hs : ∀ c ∈ s.head?, isBlank c = true) : words (u ++ s) = u :: words s := by
  induction u with
  | nil => exact absurd rfl hne
  | cons c u ih =>
      obtain ⟨hc, hu⟩ := List.forall_mem_cons.mp hu
      cases u with
      | nil =>
          cases s with
          | nil => simp [words, hc]
          | cons b s =>
              have hb : isBlank b = true := hs b rfl
              simp [words, hc, hb, words_cons_blank hb]
      | cons d u =>
          have hd : isBlank d = false := hu d List.mem_cons_self
          have hrest := ih (List.cons_ne_nil d u) hu
          rw [List.cons_append] at hrest
          simp [words, hc, hd, hrest]

theorem Spaced.words_eq (h : Spaced us s) : words s = us := by
  induction h with
  | @nil w hw =>
      have hwords := words_blank_append hw []
      rwa [List.append_nil] at hwords
  | cons hw hne hu hs _ ih =>
      rw [List.append_assoc, words_blank_append hw, words_word_append hne hu hs, ih]

theorem Spaced.cons_blank (hc : isBlank c = true) (h : Spaced us s) : Spaced us (c :: s) := by
  cases h with
  | nil hw => exact .nil (blank_cons.mpr ⟨hc, hw⟩)
  | cons hw hne hu hs h => exact .cons (blank_cons.mpr ⟨hc, hw⟩) hne hu hs h

/-- A character in front of a word lengthens the word. -/
theorem Spaced.cons_word {d : Char} (hc : isBlank c = false) (hd : isBlank d = false)
    (h : Spaced (u :: us) (d :: s)) : Spaced ((c :: u) :: us) (c :: d :: s) := by
  generalize ht : d :: s = t at h
  cases h with
  | @cons w _ s' _ hw hne hu hs h =>
      cases w with
      | nil => exact .cons blank_nil (List.cons_ne_nil c u) (List.forall_mem_cons.mpr ⟨hc, hu⟩) hs h
      | cons b w =>
          -- White space in front of the word would begin with `d`.
          obtain ⟨rfl, -⟩ := List.cons.inj ht
          rw [(blank_cons.mp hw).1] at hd
          cases hd

theorem spaced_words (s : List Char) : Spaced (words s) s := by
  fun_induction words s with
  | case1 => exact .nil blank_nil
  | case2 c hc => exact .nil (blank_cons.mpr ⟨hc, blank_nil⟩)
  | case3 c hc =>
      exact .cons blank_nil (List.cons_ne_nil c []) (by simpa using hc) (by simp)
        (.nil blank_nil)
  | case4 c d s hc ih => exact ih.cons_blank hc
  | case5 c d s hc hd ih =>
      exact .cons blank_nil (List.cons_ne_nil c []) (by simpa using hc) (by simpa using hd) ih
  | case6 c d s hc hd hnil ih =>
      rw [hnil] at ih
      cases ih with
      | nil hw => exact absurd (blank_cons.mp hw).1 hd
  | case7 c d s hc hd w ws hwords ih =>
      rw [hwords] at ih
      exact ih.cons_word (by simpa using hc) (by simpa using hd)

theorem spaced_intercalate (h : ∀ u ∈ us, u ≠ [] ∧ ∀ c ∈ u, isBlank c = false) :
    Spaced us ([' '].intercalate us) := by
  induction us with
  | nil => exact .nil blank_nil
  | cons u us ih =>
      obtain ⟨⟨hne, hu⟩, hus⟩ := List.forall_mem_cons.mp h
      cases us with
      | nil =>
          have hlast : Spaced [u] ([] ++ u ++ []) :=
            .cons blank_nil hne hu (by simp) (.nil blank_nil)
          simpa using hlast
      | cons u' us =>
          have hspace : isBlank ' ' = true := by decide
          rw [List.intercalate_cons_cons, List.append_assoc, List.singleton_append]
          exact .cons blank_nil hne hu (by simpa using hspace) ((ih hus).cons_blank hspace)

theorem Spaced.mem (h : Spaced us s) (hc : c ∈ s) : isBlank c = true ∨ ∃ u ∈ us, c ∈ u := by
  induction h with
  | nil hw => exact Or.inl (hw c hc)
  | cons hw _ _ _ _ ih =>
      rcases List.mem_append.mp hc with hc | hc
      · rcases List.mem_append.mp hc with hc | hc
        · exact Or.inl (hw c hc)
        · exact Or.inr ⟨_, List.mem_cons_self, hc⟩
      · rcases ih hc with hblank | ⟨u, hu, hc⟩
        · exact Or.inl hblank
        · exact Or.inr ⟨u, List.mem_cons_of_mem _ hu, hc⟩

theorem trimStart_append (hw : Blank w) (s : List Char) : trimStart (w ++ s) = trimStart s :=
  List.dropWhile_append_of_pos hw

theorem trimStart_cons (hc : isBlank c = false) (s : List Char) : trimStart (c :: s) = c :: s := by
  simp [trimStart, hc]

theorem trimEnd_append (hw : Blank w) (hc : isBlank c = false) (s : List Char) :
    trimEnd (s ++ c :: w) = s ++ [c] := by
  have hreverse : ∀ c ∈ w.reverse, isBlank c = true := fun c h => hw c (List.mem_reverse.mp h)
  rw [trimEnd, List.reverse_append, List.reverse_cons, List.append_assoc,
    List.dropWhile_append_of_pos hreverse]
  simp [hc]

theorem blank_or_cons (s : List Char) :
    Blank s ∨ ∃ w c t, Blank w ∧ isBlank c = false ∧ s = w ++ c :: t := by
  induction s with
  | nil => exact Or.inl blank_nil
  | cons d s ih =>
      cases hd : isBlank d with
      | false => exact Or.inr ⟨[], d, s, blank_nil, hd, rfl⟩
      | true =>
          rcases ih with hs | ⟨w, c, t, hw, hc, rfl⟩
          · exact Or.inl (blank_cons.mpr ⟨hd, hs⟩)
          · exact Or.inr ⟨d :: w, c, t, blank_cons.mpr ⟨hd, hw⟩, hc, rfl⟩

theorem exists_trimStart (s : List Char) : ∃ w, Blank w ∧ s = w ++ trimStart s :=
  ⟨s.takeWhile isBlank, fun _ => List.mem_takeWhile_imp, List.takeWhile_append_dropWhile.symm⟩

theorem exists_trimEnd (s : List Char) : ∃ w, Blank w ∧ s = trimEnd s ++ w := by
  obtain ⟨w, hw, hs⟩ := exists_trimStart s.reverse
  refine ⟨w.reverse, fun c hc => hw c (List.mem_reverse.mp hc), ?_⟩
  have hreverse := congrArg List.reverse hs
  rwa [List.reverse_reverse, List.reverse_append] at hreverse

/-- A text between brackets, with white space around them. -/
def Enclosed (inner s : List Char) : Prop :=
  ∃ w w', Blank w ∧ Blank w' ∧ s = w ++ '[' :: (inner ++ ']' :: w')

theorem isBlank_open : isBlank '[' = false := by decide

theorem isBlank_close : isBlank ']' = false := by decide

theorem enclosed_brackets (inner : List Char) : Enclosed inner ('[' :: (inner ++ [']'])) :=
  ⟨[], [], blank_nil, blank_nil, rfl⟩

end Agreement.Text
