import Agreement.Json.Reader
import Agreement.Proofs.Syntax

/-!
# Bundles from texts of features

The texts of some features make a bundle in three ways: between brackets, as a JSON array, and one
by one. The three agree on every list of words. They accept the texts of features that fill
different slots, in any order; of other lists they report the first word that is no feature, or else
all of them as repeating a slot.
-/

namespace Agreement

open Text

theorem mapM_mapError {α β ε δ : Type} (f : α → Except ε β) (g : ε → δ) (as : List α) :
    as.mapM (fun a => (f a).mapError g) = (as.mapM f).mapError g := by
  induction as with
  | nil => rfl
  | cons a as ih =>
      rw [List.mapM_cons, List.mapM_cons, ih]
      -- The first failure ends both sides, so the rest matters only after a success.
      cases f a with
      | error e => rfl
      | ok b => cases as.mapM f <;> rfl

/-- A text that stands between brackets as one word. -/
def IsWord (t : String) : Prop :=
  t ≠ "" ∧ ∀ c ∈ t.toList, isBlank c = false ∧ c ≠ '[' ∧ c ≠ ']'

theorem Feature.isWord_text (f : Feature) : IsWord f.text :=
  ⟨fun h => f.text_ne_nil (congrArg String.toList h),
    fun _ hc => ⟨not_blank_of_mem_text hc, not_bracket_of_mem_text hc⟩⟩

namespace Bundle

/-- The bundle of the features with these texts, all of which are read before slots are compared. -/
def ofTexts (ts : List String) : Except InputError Bundle :=
  ts.mapM Feature.read >>= ofFeatures

/-- The texts in brackets, one space between them. -/
def inBrackets (ts : List String) : String :=
  "[" ++ " ".intercalate ts ++ "]"

/-! ## Which texts make a bundle -/

/-- The texts are those of the features of a bundle, in any order. -/
def Listed (b : Bundle) (ts : List String) : Prop :=
  ∃ fs : List Feature, ts = fs.map Feature.text ∧ (fs.map Feature.slot).Nodup ∧ ∀ f, f ∈ b ↔ f ∈ fs

/-- What is wrong with texts that make no bundle: the first one that names no feature, whatever stands
before it, or else that two of the features fill one slot. -/
inductive Unlisted (ts : List String) : InputError → Prop
  | unknown {fs : List Feature} {t : String} {us : List String} :
      ts = fs.map Feature.text ++ t :: us → (∀ f : Feature, f.text ≠ t) →
      Unlisted ts (.unknownFeature t)
  | repeated {fs : List Feature} : ts = fs.map Feature.text → ¬ (fs.map Feature.slot).Nodup →
      Unlisted ts (.duplicateAttribute (" ".intercalate ts))

variable {b : Bundle} {ts us : List String} {e : InputError}

theorem ofTexts_map_text (fs : List Feature) : ofTexts (fs.map Feature.text) = ofFeatures fs := by
  rw [ofTexts, mapM_map_eq_ok fun f _ => f.read_text]
  rfl

theorem ofTexts_of_listed (h : b.Listed ts) : ofTexts ts = .ok b := by
  obtain ⟨fs, rfl, hlisted⟩ := h
  rw [ofTexts_map_text]
  exact ofFeatures_eq_ok_iff.mpr hlisted

theorem ofTexts_of_unlisted (h : Unlisted ts e) : ofTexts ts = .error e := by
  cases h with
  | unknown hts ht =>
      rw [hts, ofTexts, List.mapM_append, mapM_map_eq_ok fun f _ => f.read_text, List.mapM_cons,
        Feature.read_of_forall_ne ht]
      rfl
  | repeated hts hslots =>
      subst hts
      rw [ofTexts_map_text, ofFeatures_eq_ite, if_neg hslots]

theorem listed_or_unlisted (ts : List String) : (∃ b : Bundle, b.Listed ts) ∨ ∃ e, Unlisted ts e := by
  rcases map_or_outside Feature.text ts with ⟨fs, rfl⟩ | ⟨fs, t, us, hts, ht⟩
  · by_cases hslots : (fs.map Feature.slot).Nodup
    · exact Or.inl ⟨of fs, fs, rfl, hslots, fun f => mem_of hslots⟩
    · exact Or.inr ⟨_, .repeated rfl hslots⟩
  · exact Or.inr ⟨_, .unknown hts ht⟩

theorem ofTexts_eq_iff (ts : List String) :
    (∀ b, ofTexts ts = .ok b ↔ b.Listed ts) ∧ ∀ e, ofTexts ts = .error e ↔ Unlisted ts e :=
  eq_iff_of_total (fun _ => ofTexts_of_listed) (fun _ => ofTexts_of_unlisted)
    (listed_or_unlisted ts)

theorem Listed.perm (h : b.Listed ts) (hperm : us.Perm ts) : b.Listed us := by
  obtain ⟨fs, rfl, hslots, hmem⟩ := h
  obtain ⟨gs, rfl, hgs⟩ := exists_perm_of_perm_map hperm
  exact ⟨gs, rfl, (hgs.map Feature.slot).nodup_iff.mpr hslots,
    fun f => (hmem f).trans hgs.mem_iff.symm⟩

theorem Listed.features_perm (h : b.Listed ts) : (b.features.map Feature.text).Perm ts := by
  obtain ⟨fs, rfl, hslots, hmem⟩ := h
  refine List.Perm.map Feature.text ?_
  rw [List.perm_ext_iff_of_nodup b.features_nodup hslots.of_map]
  exact fun f => mem_features.trans (hmem f)

/-! ## The ways to read them -/

theorem read_inBrackets (hts : ∀ t ∈ ts, IsWord t) : read (inBrackets ts) = ofTexts ts := by
  have htext : (inBrackets ts).toList =
      '[' :: ([' '].intercalate (ts.map String.toList) ++ [']']) := by
    simp [inBrackets]
  have hspaced : Spaced (ts.map String.toList) ([' '].intercalate (ts.map String.toList)) := by
    refine spaced_intercalate (List.forall_mem_map.mpr fun t ht => ?_)
    exact ⟨by simpa using (hts t ht).1, fun c hc => ((hts t ht).2 c hc).1⟩
  have hbracket := not_bracket_mem_of_words hspaced <|
    List.forall_mem_map.mpr fun t ht c hc => ((hts t ht).2 c hc).2
  rw [read, htext, readChars_enclosed (enclosed_brackets _), if_neg (not_or.mpr hbracket),
    hspaced.words_eq, ofTexts, List.mapM_map]
  simp only [Function.comp_def, String.ofList_toList]

end Bundle

namespace Json

theorem readFeature_string (t : String) :
    readFeature (.string t) = (Feature.read t).mapError .content := by
  simp only [readFeature, readString, bind, Except.bind]
  cases Feature.read t <;> rfl

theorem readBundle_strings (ts : List String) :
    readBundle (.array (ts.map .string)) = (Bundle.ofTexts ts).mapError .content := by
  have hfeatures : readArray readFeature (.array (ts.map .string)) =
      (ts.mapM Feature.read).mapError .content := by
    rw [readArray, List.mapM_map, ← mapM_mapError]
    simp only [Function.comp_def, readFeature_string]
  rw [readBundle, hfeatures, Bundle.ofTexts]
  cases ts.mapM Feature.read with
  | error e => rfl
  | ok fs =>
      simp only [bind, Except.bind, Except.mapError]
      cases Bundle.ofFeatures fs <;> rfl

end Json

namespace Bundle

/-- Words make the same bundle between brackets, as a JSON array and one by one, or fail with the same
message. They make one if they are the texts of features of different slots; so do they in any other
order, and the bundle has these features, in the order in which it prints them. Otherwise the first
word that is no feature counts, even if features before it share a slot, and then all words together,
in the order given. -/
theorem ofTexts_three_ways {ts : List String} (hts : ∀ t ∈ ts, IsWord t) :
    read (inBrackets ts) = ofTexts ts ∧
    (Json.readBundle (.array (ts.map .string))).mapError Json.Refusal.message =
      (ofTexts ts).mapError InputError.message ∧
    (∀ b, ofTexts ts = .ok b ↔ b.Listed ts) ∧
    (∀ e, ofTexts ts = .error e ↔ Unlisted ts e) ∧
    ∀ b, ofTexts ts = .ok b →
      (b.features.map Feature.text).Perm ts ∧ b.features.Sublist Feature.all ∧
      ∀ us : List String, us.Perm ts →
        read (inBrackets us) = .ok b ∧ Json.readBundle (.array (us.map .string)) = .ok b ∧
        ofTexts us = .ok b := by
  obtain ⟨hok, herror⟩ := ofTexts_eq_iff ts
  refine ⟨read_inBrackets hts, ?_, hok, herror, fun b hb => ?_⟩
  · rw [Json.readBundle_strings]
    cases ofTexts ts <;> rfl
  · have hlisted := (hok b).mp hb
    refine ⟨hlisted.features_perm, b.features_sublist_all, fun us hperm => ?_⟩
    have hus : ofTexts us = .ok b := ofTexts_of_listed (hlisted.perm hperm)
    refine ⟨?_, ?_, hus⟩
    · rw [read_inBrackets fun t ht => hts t (hperm.mem_iff.mp ht), hus]
    · rw [Json.readBundle_strings, hus]
      rfl

/-- Three features in an order other than the printing order. -/
theorem ofTexts_disordered :
    (∀ t ∈ ["-pl", "Abs", "+1"], IsWord t) ∧
      read "[-pl Abs +1]" = .ok (of [.case .absolutive, .plus .person1, .minus .plural]) ∧
      read "[+1 -pl Abs]" = read "[-pl Abs +1]" ∧
      (of [.case .absolutive, .plus .person1, .minus .plural]).Listed ["-pl", "Abs", "+1"] := by
  have hwords : ∀ t ∈ [Feature.minus .plural, .case .absolutive, .plus .person1].map Feature.text,
      IsWord t :=
    List.forall_mem_map.mpr fun f _ => f.isWord_text
  have hok : ofTexts ["-pl", "Abs", "+1"] =
      .ok (of [.case .absolutive, .plus .person1, .minus .plural]) := by
    decide
  have hrotated : ["+1", "-pl", "Abs"].Perm ["-pl", "Abs", "+1"] := by decide
  obtain ⟨hread, -, hlisted, -, horder⟩ := ofTexts_three_ways hwords
  exact ⟨hwords, hread.trans hok, ((horder _ hok).2.2 _ hrotated).1.trans (hread.trans hok).symm,
    (hlisted _).mp hok⟩

/-- A word that names no feature counts before a slot that is filled twice. -/
example : ofTexts ["+1", "-1", "Dat"] = .error (.unknownFeature "Dat") := by
  decide

end Bundle

end Agreement
