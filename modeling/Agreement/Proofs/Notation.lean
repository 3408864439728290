import Agreement.Proofs.Syntax
import Agreement.Rule

/-!
# Reading notation back

What a feature, a bundle or a structure prints is read as that same feature, bundle or structure, so
no two of them print alike. Printed notation consists of few characters, none of which could be
taken for a separator of the texts around it.
-/

namespace Agreement

theorem injective_of_read {α β ε : Type} {write : α → β} {read : β → Except ε α}
    (h : ∀ a, read (write a) = .ok a) : Function.Injective write := by
  intro a b hab
  have hread := h a
  rw [hab, h b, Except.ok.injEq] at hread
  exact hread.symm

theorem intercalate_cons (sep w : List Char) (ws : List (List Char)) :
    sep.intercalate (w :: ws) = w ++ ws.flatMap (sep ++ ·) := by
  induction ws generalizing w with
  | nil => simp
  | cons w' ws ih =>
      rw [List.intercalate_cons_cons, ih, List.flatMap_cons, List.append_assoc, List.append_assoc]

theorem mem_intercalate {sep : List Char} {ws : List (List Char)} {c : Char}
    (h : c ∈ sep.intercalate ws) : c ∈ sep ∨ ∃ w ∈ ws, c ∈ w := by
  cases ws with
  | nil => simp at h
  | cons w ws =>
      rw [intercalate_cons, List.mem_append, List.mem_flatMap] at h
      rcases h with hw | ⟨w', hw', hc⟩
      · exact Or.inr ⟨w, List.mem_cons_self, hw⟩
      · rcases List.mem_append.mp hc with hsep | hc
        · exact Or.inl hsep
        · exact Or.inr ⟨w', List.mem_cons_of_mem w hw', hc⟩

/-! ## Separators -/

section

variable {α : Type} {a : α} {xs xs' ys ys' : List α}

theorem eq_of_append_cons_of_not_mem_left (hxs : a ∉ xs) (hxs' : a ∉ xs')
    (h : xs ++ a :: ys = xs' ++ a :: ys') : xs = xs' ∧ ys = ys' := by
  induction xs generalizing xs' with
  | nil =>
      cases xs' with
      | nil => exact ⟨rfl, (List.cons.inj h).2⟩
      | cons x' xs' =>
          obtain ⟨rfl, -⟩ := List.cons.inj h
          exact absurd List.mem_cons_self hxs'
  | cons x xs ih =>
      cases xs' with
      | nil =>
          obtain ⟨rfl, -⟩ := List.cons.inj h
          exact absurd List.mem_cons_self hxs
      | cons x' xs' =>
          obtain ⟨rfl, htail⟩ := List.cons.inj h
          obtain ⟨rfl, hys⟩ :=
            ih (mt (List.mem_cons_of_mem x) hxs) (mt (List.mem_cons_of_mem x) hxs') htail
          exact ⟨rfl, hys⟩

theorem eq_of_append_cons_of_not_mem_right (hys : a ∉ ys) (hys' : a ∉ ys')
    (h : xs ++ a :: ys = xs' ++ a :: ys') : xs = xs' ∧ ys = ys' := by
  have hreverse : ys.reverse ++ a :: xs.reverse = ys'.reverse ++ a :: xs'.reverse := by
    simpa using congrArg List.reverse h
  obtain ⟨hr, hl⟩ := eq_of_append_cons_of_not_mem_left (mt List.mem_reverse.mp hys)
    (mt List.mem_reverse.mp hys') hreverse
  exact ⟨List.reverse_injective hl, List.reverse_injective hr⟩

end

/-- The characters of bundle and structure notation. -/
def notationAlphabet : List Char :=
  '[' :: ']' :: ' ' :: Feature.alphabet

theorem mem_notationAlphabet_of_bracketed {ws : List (List Char)} {c : Char}
    (h : ∀ w ∈ ws, ∀ c ∈ w, c ∈ notationAlphabet)
    (hc : c ∈ '[' :: ([' '].intercalate ws ++ [']'])) : c ∈ notationAlphabet := by
  rw [List.mem_cons, List.mem_append, List.mem_singleton] at hc
  rcases hc with rfl | hinner | rfl
  · decide
  · rcases mem_intercalate hinner with hblank | ⟨w, hw, hcw⟩
    · rw [List.mem_singleton.mp hblank]
      decide
    · exact h w hw c hcw
  · decide

/-! ## Bundles -/

namespace Bundle

theorem toList_text (b : Bundle) :
    b.text.toList =
      '[' :: ([' '].intercalate (b.features.map fun f => f.text.toList) ++ [']']) := by
  simp [text, Function.comp_def]

theorem mem_text {b : Bundle} {c : Char} (hc : c ∈ b.text.toList) : c ∈ notationAlphabet := by
  rw [toList_text] at hc
  refine mem_notationAlphabet_of_bracketed (fun w hw c hcw => ?_) hc
  obtain ⟨f, -, rfl⟩ := List.mem_map.mp hw
  exact List.mem_append_right ['[', ']', ' '] (Feature.mem_alphabet hcw)

/-- Printing puts one space between the features. -/
theorem spells_text (b : Bundle) : b.Spells b.text.toList := by
  have hspaced : Text.Spaced (Feature.words b.features)
      ([' '].intercalate (Feature.words b.features)) := by
    refine Text.spaced_intercalate fun u hu => ?_
    obtain ⟨f, -, rfl⟩ := List.mem_map.mp hu
    exact ⟨f.text_ne_nil, fun c => Feature.not_blank_of_mem_text⟩
  rw [toList_text]
  exact spells_brackets_iff.mpr
    ⟨b.features, hspaced, b.nodup_slots_features, fun f => mem_features.symm⟩

theorem readChars_text (b : Bundle) : readChars b.text.toList = .ok b :=
  readChars_of_spells b.spells_text

theorem read_text (b : Bundle) : read b.text = .ok b :=
  b.readChars_text

theorem text_injective : Function.Injective text :=
  injective_of_read read_text

end Bundle

/-! ## Structures -/

namespace Structure

theorem toList_text (s : Structure) :
    s.text.toList =
      '[' :: ([' '].intercalate (s.bundles.map fun b => b.text.toList) ++ [']']) := by
  simp [text, Function.comp_def]

theorem mem_text {s : Structure} {c : Char} (hc : c ∈ s.text.toList) : c ∈ notationAlphabet := by
  rw [toList_text] at hc
  refine mem_notationAlphabet_of_bracketed (fun w hw c hcw => ?_) hc
  obtain ⟨b, -, rfl⟩ := List.mem_map.mp hw
  exact Bundle.mem_text hcw

theorem spellsAll_intercalate (bs : List Bundle) :
    SpellsAll bs ([' '].intercalate (bs.map fun b => b.text.toList)) := by
  induction bs with
  | nil => exact .nil Text.blank_nil
  | cons b bs ih =>
      have hb : ∀ s, SpellsAll bs s → SpellsAll (b :: bs) (b.text.toList ++ s) := by
        intro s hs
        have hlists := b.spells_text
        rw [Bundle.toList_text] at hlists ⊢
        have hcons := SpellsAll.cons Text.blank_nil (Bundle.spells_brackets_iff.mp hlists) hs
        simpa using hcons
      cases bs with
      | nil => simpa using hb [] (.nil Text.blank_nil)
      | cons b' bs =>
          rw [List.map_cons, List.map_cons, List.intercalate_cons_cons, List.append_assoc]
          exact hb _ (ih.cons_blank (by decide))

theorem spells_text (s : Structure) : s.Spells s.text.toList := by
  rw [toList_text]
  exact ⟨_, Text.enclosed_brackets _, spellsAll_intercalate s.bundles⟩

theorem readChars_text (s : Structure) : readChars s.text.toList = .ok s :=
  readChars_of_spells s.spells_text

theorem read_text (s : Structure) : read s.text = .ok s :=
  s.readChars_text

theorem text_injective : Function.Injective text :=
  injective_of_read read_text

end Structure

/-! ## Items and rules -/

namespace Item

theorem toList_text (i : Item) :
    i.text.toList =
      ('/' :: i.form.toList) ++ '/' :: ([':', ' '] ++ i.meaning.text.toList) := by
  simp [text]

/-- The last slash ends the form, whatever the form looks like. -/
theorem text_injective : Function.Injective text := by
  intro i j h
  have hlast : ∀ s : Structure, '/' ∉ [':', ' '] ++ s.text.toList := by
    intro s
    rw [List.mem_append, not_or]
    exact ⟨by decide, mt Structure.mem_text (by decide)⟩
  have hlist := congrArg String.toList h
  rw [toList_text, toList_text] at hlist
  obtain ⟨hform, hmeaning⟩ := eq_of_append_cons_of_not_mem_right (hlast _) (hlast _) hlist
  obtain ⟨f, m⟩ := i
  obtain ⟨f', m'⟩ := j
  rw [mk.injEq]
  exact ⟨String.toList_inj.mp (List.cons.inj hform).2,
    Structure.text_injective (String.toList_inj.mp (List.append_cancel_left hmeaning))⟩

end Item

namespace Rule

theorem toList_text (r : Rule) :
    r.text.toList =
      (r.deleted.text.toList ++ [' ']) ++ '→' :: ([' ', '∅', ' ', '/', ' '] ++
        r.context.text.toList) := by
  simp [text]

theorem text_injective : Function.Injective text := by
  intro r q h
  have hfirst : ∀ b : Bundle, '→' ∉ b.text.toList ++ [' '] := by
    intro b
    rw [List.mem_append, not_or]
    exact ⟨mt Bundle.mem_text (by decide), by decide⟩
  have hlist := congrArg String.toList h
  rw [toList_text, toList_text] at hlist
  obtain ⟨hdeleted, hcontext⟩ := eq_of_append_cons_of_not_mem_left (hfirst _) (hfirst _) hlist
  obtain ⟨d, c⟩ := r
  obtain ⟨d', c'⟩ := q
  rw [mk.injEq]
  exact ⟨Bundle.text_injective (String.toList_inj.mp (List.append_cancel_right hdeleted)),
    Structure.text_injective (String.toList_inj.mp (List.append_cancel_left hcontext))⟩

theorem mem_text {r : Rule} {c : Char} (hc : c ∈ r.text.toList) :
    c ∈ notationAlphabet ++ ['→', '∅', '/'] := by
  have hmiddle : [' ', '→', ' ', '∅', ' ', '/', ' '] ⊆ notationAlphabet ++ ['→', '∅', '/'] := by
    decide
  have htext : r.text.toList = r.deleted.text.toList ++
      ([' ', '→', ' ', '∅', ' ', '/', ' '] ++ r.context.text.toList) := by
    simp [text]
  rw [htext, List.mem_append, List.mem_append] at hc
  rcases hc with hdeleted | hc | hcontext
  · exact List.mem_append_left _ (Bundle.mem_text hdeleted)
  · exact hmiddle hc
  · exact List.mem_append_left _ (Structure.mem_text hcontext)

end Rule

/-- Notation can be read back. Structures and bundles are what their text is read as, so that a
structure without bundles and one of a bundle without features print differently; a text that was
accepted means the same after it is printed anew. Items and rules, which are printed only, differ in
print wherever they differ, whatever characters the forms are made of. -/
theorem printing_invertible :
    (∀ x : Structure, Structure.read x.text = .ok x) ∧
    (∀ b : Bundle, Bundle.read b.text = .ok b) ∧
    Structure.empty.text ≠ (Structure.empty.push .empty).text ∧
    (∀ s x, Structure.read s = .ok x → Structure.read x.text = Structure.read s) ∧
    (∀ s b, Bundle.read s = .ok b → Bundle.read b.text = Bundle.read s) ∧
    Function.Injective Item.text ∧
    Function.Injective Rule.text := by
  refine ⟨Structure.read_text, Bundle.read_text, Structure.text_injective.ne (by decide),
    fun s x hx => ?_, fun s b hb => ?_, Item.text_injective, Rule.text_injective⟩
  · rw [hx, Structure.read_text]
  · rw [hb, Bundle.read_text]

end Agreement
