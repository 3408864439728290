import Mathlib.Data.List.Forall2
import Mathlib.Data.List.Perm.Basic
import Agreement.Proofs.Slots
import Agreement.Proofs.WhiteSpace
import Agreement.Structure.Notation

/-!
# The syntax of notation

Which texts are bundles and structures, and what is wrong with the others, said without regard to
how they are read. Reading accepts exactly the texts of this syntax, and it refuses every other one
for what is wrong at the leftmost place.
-/

namespace Agreement

/-- Where one of two descriptions fits every result, and each is right about what it fits, both say
exactly what the result is. -/
theorem eq_iff_of_total {α ε : Type} {r : Except ε α} {P : α → Prop} {Q : ε → Prop}
    (hok : ∀ a, P a → r = .ok a) (herror : ∀ e, Q e → r = .error e)
    (htotal : (∃ a, P a) ∨ ∃ e, Q e) : (∀ a, r = .ok a ↔ P a) ∧ ∀ e, r = .error e ↔ Q e := by
  rcases htotal with ⟨a, ha⟩ | ⟨e, he⟩
  · have hr := hok a ha
    refine ⟨fun a' => ⟨fun h => ?_, hok a'⟩, fun e => ⟨fun h => ?_, herror e⟩⟩
    · cases hr.symm.trans h
      exact ha
    · cases hr.symm.trans h
  · have hr := herror e he
    refine ⟨fun a => ⟨fun h => ?_, hok a⟩, fun e' => ⟨fun h => ?_, herror e'⟩⟩
    · cases hr.symm.trans h
    · cases hr.symm.trans h
      exact he

theorem bind_eq_ok_iff {α β ε : Type} {x : Except ε α} {f : α → Except ε β} {b : β} :
    (x >>= f) = .ok b ↔ ∃ a, x = .ok a ∧ f a = .ok b := by
  cases x with
  | error e => simp [bind, Except.bind]
  | ok a => simp [bind, Except.bind]

theorem map_eq_ok_iff {α β ε : Type} {x : Except ε α} {f : α → β} {b : β} :
    f <$> x = .ok b ↔ ∃ a, x = .ok a ∧ f a = b := by
  cases x with
  | error e => simp [Functor.map, Except.map]
  | ok a => simp [Functor.map, Except.map]

theorem mapM_eq_ok_iff {α β ε : Type} {f : α → Except ε β} {as : List α} {bs : List β} :
    as.mapM f = .ok bs ↔ List.Forall₂ (fun a b => f a = .ok b) as bs := by
  induction as generalizing bs with
  | nil => cases bs <;> simp [pure, Except.pure]
  | cons a as ih =>
      rw [List.mapM_cons, bind_eq_ok_iff]
      simp only [bind_eq_ok_iff, ih, pure, Except.pure, Except.ok.injEq]
      constructor
      · rintro ⟨b, hb, bs, hbs, rfl⟩
        exact .cons hb hbs
      · rintro (_ | ⟨hb, hbs⟩)
        exact ⟨_, hb, _, hbs, rfl⟩

/-- If each value is read back from what it was written as, so is a list of them. -/
theorem mapM_map_eq_ok {α β ε : Type} {write : α → β} {read : β → Except ε α} {as : List α}
    (h : ∀ a ∈ as, read (write a) = .ok a) : (as.map write).mapM read = .ok as :=
  mapM_eq_ok_iff.mpr (List.forall₂_map_left_iff.mpr (List.forall₂_same.mpr h))

/-- A list consists of values of a function, or there is a first entry that is none. -/
theorem map_or_outside {α β : Type} (f : α → β) (bs : List β) :
    (∃ as : List α, bs = as.map f) ∨
      ∃ (as : List α) (u : β) (us : List β), bs = as.map f ++ u :: us ∧ ∀ a, f a ≠ u := by
  induction bs with
  | nil => exact Or.inl ⟨[], rfl⟩
  | cons b bs ih =>
      by_cases hb : ∃ a, f a = b
      · obtain ⟨a, rfl⟩ := hb
        rcases ih with ⟨as, rfl⟩ | ⟨as, u, us, rfl, hu⟩
        · exact Or.inl ⟨a :: as, rfl⟩
        · exact Or.inr ⟨a :: as, u, us, rfl, hu⟩
      · exact Or.inr ⟨[], b, bs, rfl, not_exists.mp hb⟩

/-- Values of a function in another order are the values of what it was applied to in another order. -/
theorem exists_perm_of_perm_map {α β : Type} {f : α → β} {as : List α} {bs : List β}
    (h : bs.Perm (as.map f)) : ∃ as' : List α, bs = as'.map f ∧ as'.Perm as := by
  have hmap : List.Forall₂ (fun b a => b = f a) (as.map f) as :=
    List.forall₂_map_left_iff.mpr (List.forall₂_same.mpr fun _ _ => rfl)
  obtain ⟨as', hbs, has⟩ := List.perm_comp_forall₂ h hmap
  rw [← List.forall₂_map_right_iff, List.forall₂_eq_eq_eq] at hbs
  exact ⟨as', hbs, has⟩

open Text

theorem bracketed?_eq_some_iff {inner s : List Char} :
    bracketed? s = some inner ↔ s = '[' :: (inner ++ [']']) := by
  constructor
  · intro h
    unfold bracketed? at h
    split at h
    · split at h
      · next hlast =>
          cases h
          rw [List.dropLast_append_getLast? _ hlast]
      · cases h
    · cases h
  · rintro rfl
    have hlast : (inner ++ [']']).getLast? = some ']' := List.getLast?_concat
    simp [bracketed?, hlast]

theorem bracketed?_trim_eq_some_iff {inner s : List Char} :
    bracketed? (trim s) = some inner ↔ Enclosed inner s := by
  rw [bracketed?_eq_some_iff]
  constructor
  · intro h
    obtain ⟨w, hw, hs⟩ := exists_trimStart s
    obtain ⟨w', hw', hs'⟩ := exists_trimEnd (trimStart s)
    refine ⟨w, w', hw, hw', ?_⟩
    rw [hs, hs', ← trim, h]
    simp
  · rintro ⟨w, w', hw, hw', rfl⟩
    have hend := trimEnd_append hw' isBlank_close ('[' :: inner)
    rw [trim, trimStart_append hw, trimStart_cons isBlank_open]
    exact hend

theorem bracketed?_trim_eq_none_iff {s : List Char} :
    bracketed? (trim s) = none ↔ ∀ inner, ¬ Enclosed inner s := by
  rw [Option.eq_none_iff_forall_ne_some]
  exact forall_congr' fun _ => not_congr bracketed?_trim_eq_some_iff

/-! ## Features -/

namespace Feature

theorem mem_all (f : Feature) : f ∈ all := by
  cases f with
  | case l => cases l <;> decide
  | signed a s => cases a <;> cases s <;> decide

theorem read_text (f : Feature) : read f.text = .ok f := by
  cases f with
  | case l => cases l <;> rfl
  | signed a s => cases a <;> cases s <;> rfl

theorem read_of_forall_ne {t : String} (h : ∀ f : Feature, f.text ≠ t) :
    read t = .error (.unknownFeature t) := by
  have hnone : ofText? t = none := by
    rw [ofText?, List.find?_eq_none]
    exact fun f _ => by simpa using h f
  rw [read, hnone]

/-- The characters of feature notation. -/
def alphabet : List Char :=
  all.flatMap (·.text.toList)

theorem mem_alphabet {f : Feature} {c : Char} (hc : c ∈ f.text.toList) : c ∈ alphabet :=
  List.mem_flatMap.mpr ⟨f, f.mem_all, hc⟩

theorem text_ne_nil (f : Feature) : f.text.toList ≠ [] := by
  cases f with
  | case l => cases l <;> decide
  | signed a s => cases a <;> cases s <;> decide

theorem not_blank_of_mem_text {f : Feature} {c : Char} (hc : c ∈ f.text.toList) :
    isBlank c = false := by
  have hall : alphabet.all (fun c => !isBlank c) = true := by decide
  simpa using List.all_eq_true.mp hall c (mem_alphabet hc)

theorem not_bracket_of_mem_text {f : Feature} {c : Char} (hc : c ∈ f.text.toList) :
    c ≠ '[' ∧ c ≠ ']' := by
  have hall : alphabet.all (fun c => c != '[' && c != ']') = true := by decide
  simpa using List.all_eq_true.mp hall c (mem_alphabet hc)

/-- The sixteen texts of features. -/
def texts : List String :=
  ["Nom", "Acc", "Erg", "Abs", "+1", "-1", "+2", "-2", "+3", "-3", "+sg", "-sg", "+pl", "-pl",
    "+intr", "-intr"]

theorem exists_text_eq_iff {t : String} : (∃ f : Feature, f.text = t) ↔ t ∈ texts := by
  have htexts : texts = all.map text := by decide
  rw [htexts, List.mem_map]
  exact exists_congr fun f => (and_iff_right f.mem_all).symm

def words (fs : List Feature) : List (List Char) :=
  fs.map (·.text.toList)

theorem words_or_unknown (ws : List (List Char)) :
    (∃ fs, ws = words fs) ∨
      ∃ fs u us, ws = words fs ++ u :: us ∧ ∀ f : Feature, f.text.toList ≠ u :=
  map_or_outside (fun f : Feature => f.text.toList) ws

theorem mapM_read_words (fs : List Feature) :
    (words fs).mapM (fun w => read (String.ofList w)) = .ok fs :=
  mapM_map_eq_ok fun f _ => by rw [String.ofList_toList, read_text]

/-- Of several unknown words the first one is reported. -/
theorem mapM_read_unknown (fs : List Feature) {u : List Char}
    (hu : ∀ f : Feature, f.text.toList ≠ u) (us : List (List Char)) :
    (words fs ++ u :: us).mapM (fun w => read (String.ofList w)) =
      .error (.unknownFeature (String.ofList u)) := by
  have hread : read (String.ofList u) = .error (.unknownFeature (String.ofList u)) :=
    read_of_forall_ne fun f hf => hu f (by rw [hf, String.toList_ofList])
  rw [List.mapM_append, mapM_read_words, List.mapM_cons, hread]
  rfl

end Feature

/-! ## Bundles -/

namespace Bundle

/-- A text lists the features of a bundle: it consists of their words, in any order, and no two of
them fill the same slot. -/
def Lists (b : Bundle) (body : List Char) : Prop :=
  ∃ fs, Spaced (Feature.words fs) body ∧ (fs.map Feature.slot).Nodup ∧ ∀ f, f ∈ b ↔ f ∈ fs

def Spells (b : Bundle) (t : List Char) : Prop :=
  ∃ body, Enclosed body t ∧ b.Lists body

/-- What is wrong with a text that spells no bundle. Brackets are looked at first, then every word,
and the slots at last. -/
inductive Refused (t : List Char) : InputError → Prop
  | unclosed : (∀ body, ¬ Enclosed body t) → Refused t (.malformedStructure (String.ofList t))
  | bracket {body} : Enclosed body t → '[' ∈ body ∨ ']' ∈ body →
      Refused t (.malformedStructure (String.ofList t))
  | unknown {body fs u us} : Enclosed body t → '[' ∉ body → ']' ∉ body →
      Spaced (Feature.words fs ++ u :: us) body → (∀ f : Feature, f.text.toList ≠ u) →
      Refused t (.unknownFeature (String.ofList u))
  | repeated {body fs} : Enclosed body t → Spaced (Feature.words fs) body →
      ¬ (fs.map Feature.slot).Nodup →
      Refused t (.duplicateAttribute (" ".intercalate (fs.map Feature.text)))

variable {b : Bundle} {body t : List Char} {fs : List Feature} {e : InputError}

theorem not_bracket_mem_of_words {ws : List (List Char)} (h : Spaced ws body)
    (hws : ∀ w ∈ ws, ∀ c ∈ w, c ≠ '[' ∧ c ≠ ']') : '[' ∉ body ∧ ']' ∉ body := by
  have hbracket : ∀ c ∈ body, c ≠ '[' ∧ c ≠ ']' := by
    intro c hc
    rcases h.mem hc with hblank | ⟨u, hu, hcu⟩
    · refine ⟨?_, ?_⟩
      · rintro rfl
        rw [isBlank_open] at hblank
        cases hblank
      · rintro rfl
        rw [isBlank_close] at hblank
        cases hblank
    · exact hws u hu c hcu
  exact ⟨fun h => (hbracket _ h).1 rfl, fun h => (hbracket _ h).2 rfl⟩

theorem not_bracket_mem_of_spaced (h : Spaced (Feature.words fs) body) :
    '[' ∉ body ∧ ']' ∉ body := by
  refine not_bracket_mem_of_words h fun w hw c hcw => ?_
  obtain ⟨f, -, rfl⟩ := List.mem_map.mp hw
  exact Feature.not_bracket_of_mem_text hcw

theorem readChars_enclosed (h : Enclosed body t) :
    readChars t =
      if '[' ∈ body ∨ ']' ∈ body then .error (.malformedStructure (String.ofList t))
      else (words body).mapM (fun w => Feature.read (String.ofList w)) >>= ofFeatures := by
  have hany : body.any (fun c => c = '[' ∨ c = ']') = true ↔ '[' ∈ body ∨ ']' ∈ body := by
    simp only [List.any_eq_true, decide_eq_true_eq, and_or_left, exists_or, exists_eq_right]
  simp only [readChars, bracketed?_trim_eq_some_iff.mpr h, hany]

theorem readChars_of_not_enclosed (h : ∀ body, ¬ Enclosed body t) :
    readChars t = .error (.malformedStructure (String.ofList t)) := by
  rw [readChars, bracketed?_trim_eq_none_iff.mpr h]

theorem readChars_spaced (h : Enclosed body t) (hbody : Spaced (Feature.words fs) body) :
    readChars t = ofFeatures fs := by
  obtain ⟨hopen, hclose⟩ := not_bracket_mem_of_spaced hbody
  rw [readChars_enclosed h, if_neg (not_or.mpr ⟨hopen, hclose⟩), hbody.words_eq,
    Feature.mapM_read_words]
  rfl

theorem readChars_of_spells (h : b.Spells t) : readChars t = .ok b := by
  obtain ⟨body, hbody, fs, hfs, hlisted⟩ := h
  rw [readChars_spaced hbody hfs]
  exact ofFeatures_eq_ok_iff.mpr hlisted

theorem readChars_of_refused (h : Refused t e) : readChars t = .error e := by
  cases h with
  | unclosed h => exact readChars_of_not_enclosed h
  | bracket h hbracket => rw [readChars_enclosed h, if_pos hbracket]
  | unknown h hopen hclose hwords hu =>
      rw [readChars_enclosed h, if_neg (not_or.mpr ⟨hopen, hclose⟩), hwords.words_eq,
        Feature.mapM_read_unknown _ hu]
      rfl
  | repeated h hwords hslots => rw [readChars_spaced h hwords, ofFeatures_eq_ite, if_neg hslots]

theorem spells_or_refused (t : List Char) : (∃ b : Bundle, b.Spells t) ∨ ∃ e, Refused t e := by
  by_cases h : ∃ body, Enclosed body t
  · obtain ⟨body, hbody⟩ := h
    by_cases hbracket : '[' ∈ body ∨ ']' ∈ body
    · exact Or.inr ⟨_, .bracket hbody hbracket⟩
    · obtain ⟨hopen, hclose⟩ := not_or.mp hbracket
      have hspaced := spaced_words body
      rcases Feature.words_or_unknown (words body) with ⟨fs, hfs⟩ | ⟨fs, u, us, hfs, hu⟩
      · rw [hfs] at hspaced
        by_cases hslots : (fs.map Feature.slot).Nodup
        · exact Or.inl ⟨of fs, body, hbody, fs, hspaced, hslots, fun f => mem_of hslots⟩
        · exact Or.inr ⟨_, .repeated hbody hspaced hslots⟩
      · rw [hfs] at hspaced
        exact Or.inr ⟨_, .unknown hbody hopen hclose hspaced hu⟩
  · exact Or.inr ⟨_, .unclosed (not_exists.mp h)⟩

theorem readChars_eq_iff (t : List Char) :
    (∀ b, readChars t = .ok b ↔ b.Spells t) ∧ ∀ e, readChars t = .error e ↔ Refused t e :=
  eq_iff_of_total (fun _ => readChars_of_spells) (fun _ => readChars_of_refused)
    (spells_or_refused t)

theorem Lists.not_close_mem (h : b.Lists body) : ']' ∉ body := by
  obtain ⟨fs, hfs, -⟩ := h
  exact (not_bracket_mem_of_spaced hfs).2

theorem spells_brackets_iff : b.Spells ('[' :: (body ++ [']'])) ↔ b.Lists body := by
  constructor
  · rintro ⟨body', hbody', h⟩
    have hinner := bracketed?_trim_eq_some_iff.mpr hbody'
    rw [bracketed?_trim_eq_some_iff.mpr (enclosed_brackets body)] at hinner
    cases hinner
    exact h
  · exact fun h => ⟨body, enclosed_brackets body, h⟩

theorem Lists.readChars_brackets (h : b.Lists body) : readChars ('[' :: (body ++ [']'])) = .ok b :=
  readChars_of_spells (spells_brackets_iff.mpr h)

end Bundle

/-! ## Structures -/

namespace Structure

/-- A text is a row of bundles in brackets, with white space between them and around them. -/
inductive SpellsAll : List Bundle → List Char → Prop
  | nil {w} : Blank w → SpellsAll [] w
  | cons {w body b bs s} : Blank w → b.Lists body → SpellsAll bs s →
      SpellsAll (b :: bs) (w ++ '[' :: (body ++ ']' :: s))

def Spells (x : Structure) (s : List Char) : Prop :=
  ∃ inner, Enclosed inner s ∧ SpellsAll x.bundles inner

/-- What is wrong at the leftmost place of a text that is no row of bundles: where a bundle should
begin there is no opening bracket, or no closing one after it, or what the two enclose is refused as
a bundle. -/
inductive BreaksOff (whole : List Char) : List Char → InputError → Prop
  | stuck {w c s} : Blank w → isBlank c = false → c ≠ '[' ∨ ']' ∉ s →
      BreaksOff whole (w ++ c :: s) (.malformedStructure (String.ofList whole))
  | bundle {w body e s} : Blank w → ']' ∉ body → Bundle.Refused ('[' :: (body ++ [']'])) e →
      BreaksOff whole (w ++ '[' :: (body ++ ']' :: s)) e
  | later {w body} {b : Bundle} {e s} : Blank w → b.Lists body → BreaksOff whole s e →
      BreaksOff whole (w ++ '[' :: (body ++ ']' :: s)) e

inductive Refused (s : List Char) : InputError → Prop
  | unclosed : (∀ inner, ¬ Enclosed inner s) → Refused s (.malformedStructure (String.ofList s))
  | inside {inner e} : Enclosed inner s → BreaksOff s inner e → Refused s e

variable {x : Structure} {whole inner w body s : List Char} {bs : List Bundle} {e : InputError}

theorem pieces_append {p : List Char} (hp : ']' ∉ p) (s : List Char) :
    pieces (p ++ ']' :: s) = ((p ++ [']']) :: (pieces s).1, (pieces s).2) := by
  induction p with
  | nil => simp [pieces]
  | cons c p ih =>
      rw [List.mem_cons, not_or] at hp
      have hne : c ≠ ']' := Ne.symm hp.1
      rw [List.cons_append, pieces, ih hp.2]
      simp [hne]

theorem pieces_of_not_mem (h : ']' ∉ s) : pieces s = ([], s) := by
  induction s with
  | nil => rfl
  | cons c s ih =>
      rw [List.mem_cons, not_or] at h
      have hne : c ≠ ']' := Ne.symm h.1
      simp [pieces, ih h.2, hne]

/-- Reads a row of bundles; `whole` is the text it comes from. -/
def readBundles (whole inner : List Char) : Except InputError (List Bundle) := do
  let bundles ← (pieces inner).1.mapM (readPiece whole)
  if (pieces inner).2.all isBlank then pure bundles
  else throw (.malformedStructure (String.ofList whole))

theorem readChars_enclosed (h : Enclosed inner s) : readChars s = mk <$> readBundles s inner := by
  simp only [readChars, bracketed?_trim_eq_some_iff.mpr h, readBundles]
  cases (pieces inner).1.mapM (readPiece s) with
  | error e => rfl
  | ok bundles => cases (pieces inner).2.all isBlank <;> rfl

theorem readChars_of_not_enclosed (h : ∀ inner, ¬ Enclosed inner s) :
    readChars s = .error (.malformedStructure (String.ofList s)) := by
  rw [readChars, bracketed?_trim_eq_none_iff.mpr h]

theorem readBundles_blank (hw : Blank w) : readBundles whole w = .ok [] := by
  have hall : w.all isBlank = true := List.all_eq_true.mpr hw
  rw [readBundles, pieces_of_not_mem (hw.not_mem isBlank_close)]
  simp only [hall]
  rfl

/-- The first piece is read before the others. -/
theorem readBundles_piece {p : List Char} (hp : ']' ∉ p) :
    readBundles whole (p ++ ']' :: s) =
      readPiece whole (p ++ [']']) >>= fun b => (b :: ·) <$> readBundles whole s := by
  rw [readBundles, pieces_append hp]
  simp only [List.mapM_cons, readBundles]
  cases readPiece whole (p ++ [']']) with
  | error e => rfl
  | ok b =>
      cases (pieces s).1.mapM (readPiece whole) with
      | error e => rfl
      | ok bundles => cases (pieces s).2.all isBlank <;> rfl

theorem readPiece_bracket (hw : Blank w) :
    readPiece whole (w ++ '[' :: s) = Bundle.readChars ('[' :: s) := by
  rw [readPiece, trimStart_append hw, trimStart_cons isBlank_open, if_pos List.head?_cons]

theorem readPiece_of_ne {c : Char} (hw : Blank w) (hc : isBlank c = false) (hne : c ≠ '[') :
    readPiece whole (w ++ c :: s) = .error (.malformedStructure (String.ofList whole)) := by
  rw [readPiece, trimStart_append hw, trimStart_cons hc, List.head?_cons, if_neg]
  exact fun h => hne (Option.some.inj h)

theorem readBundles_bundle (hw : Blank w) (hbody : ']' ∉ body) :
    readBundles whole (w ++ '[' :: (body ++ ']' :: s)) =
      Bundle.readChars ('[' :: (body ++ [']'])) >>= fun b => (b :: ·) <$> readBundles whole s := by
  have hp : ']' ∉ w ++ '[' :: body := by
    rw [List.mem_append, List.mem_cons]
    rintro (h | h | h)
    · exact hw.not_mem isBlank_close h
    · exact absurd h (by decide)
    · exact hbody h
  have hpiece : readBundles whole ((w ++ '[' :: body) ++ ']' :: s) = _ := readBundles_piece hp
  rw [List.append_assoc, List.append_assoc, List.cons_append, List.cons_append,
    readPiece_bracket hw] at hpiece
  exact hpiece

/-- Where no bundle begins the whole text is reported, whatever comes after. -/
theorem readBundles_stuck {c : Char} (hw : Blank w) (hc : isBlank c = false)
    (h : c ≠ '[' ∨ ']' ∉ s) :
    readBundles whole (w ++ c :: s) = .error (.malformedStructure (String.ofList whole)) := by
  -- Where something ends at a closing bracket it is read as a bundle, which it does not begin as.
  -- Where nothing does, all that is left should have been white space.
  by_cases hclose : ']' ∈ c :: s
  · have hne : c ≠ '[' := by
      rcases h with hne | hs
      · exact hne
      · rcases List.mem_cons.mp hclose with rfl | hmem
        · decide
        · exact absurd hmem hs
    obtain ⟨p, s', hcs, hp⟩ := List.eq_append_cons_of_mem hclose
    have hwp : ']' ∉ w ++ p := by
      rw [List.mem_append, not_or]
      exact ⟨hw.not_mem isBlank_close, hp⟩
    have hpiece : readPiece whole (w ++ (p ++ [']'])) =
        .error (.malformedStructure (String.ofList whole)) := by
      cases p with
      | nil => exact readPiece_of_ne hw isBlank_close (by decide)
      | cons d p =>
          obtain ⟨rfl, -⟩ := List.cons.inj hcs
          exact readPiece_of_ne hw hc hne
    rw [hcs, ← List.append_assoc, readBundles_piece hwp, List.append_assoc, hpiece]
    rfl
  · have hws : ']' ∉ w ++ c :: s := by
      rw [List.mem_append, not_or]
      exact ⟨hw.not_mem isBlank_close, hclose⟩
    have hall : (w ++ c :: s).all isBlank = false := by simp [hc]
    rw [readBundles, pieces_of_not_mem hws]
    simp only [hall]
    rfl

theorem SpellsAll.cons_blank {c : Char} (hc : isBlank c = true) (h : SpellsAll bs s) :
    SpellsAll bs (c :: s) := by
  cases h with
  | nil hw => exact .nil (blank_cons.mpr ⟨hc, hw⟩)
  | cons hw hbody h => exact .cons (blank_cons.mpr ⟨hc, hw⟩) hbody h

theorem readBundles_of_spellsAll (h : SpellsAll bs inner) : readBundles whole inner = .ok bs := by
  induction h with
  | nil hw => exact readBundles_blank hw
  | cons hw hbody _ ih =>
      rw [readBundles_bundle hw hbody.not_close_mem, hbody.readChars_brackets, ih]
      rfl

theorem readBundles_of_breaksOff (h : BreaksOff whole inner e) :
    readBundles whole inner = .error e := by
  induction h with
  | stuck hw hc h => exact readBundles_stuck hw hc h
  | bundle hw hbody h =>
      rw [readBundles_bundle hw hbody, Bundle.readChars_of_refused h]
      rfl
  | later hw hbody _ ih =>
      rw [readBundles_bundle hw hbody.not_close_mem, hbody.readChars_brackets, ih]
      rfl

theorem spellsAll_or_breaksOff (whole inner : List Char) :
    (∃ bs, SpellsAll bs inner) ∨ ∃ e, BreaksOff whole inner e := by
  -- A bundle takes more than one character off the text, so the induction is on its length.
  induction hn : inner.length using Nat.strong_induction_on generalizing inner with
  | h n ih =>
      rcases blank_or_cons inner with hw | ⟨w, c, rest, hw, hc, rfl⟩
      · exact Or.inl ⟨[], .nil hw⟩
      by_cases h : c ≠ '[' ∨ ']' ∉ rest
      · exact Or.inr ⟨_, .stuck hw hc h⟩
      obtain ⟨rfl, hclose⟩ : c = '[' ∧ ']' ∈ rest := by
        rwa [not_or, not_not, not_not] at h
      obtain ⟨body, s, rfl, hbody⟩ := List.eq_append_cons_of_mem hclose
      rcases Bundle.spells_or_refused ('[' :: (body ++ [']'])) with ⟨b, hb⟩ | ⟨e, he⟩
      · have hlists : b.Lists body := Bundle.spells_brackets_iff.mp hb
        have hlength : s.length < n := by
          simp only [← hn, List.length_append, List.length_cons]
          omega
        rcases ih s.length hlength s rfl with ⟨bs, hbs⟩ | ⟨e, he⟩
        · exact Or.inl ⟨b :: bs, .cons hw hlists hbs⟩
        · exact Or.inr ⟨e, .later hw hlists he⟩
      · exact Or.inr ⟨e, .bundle hw hbody he⟩

theorem readChars_of_spells (h : x.Spells s) : readChars s = .ok x := by
  obtain ⟨inner, hinner, hbs⟩ := h
  rw [readChars_enclosed hinner, readBundles_of_spellsAll hbs]
  rfl

theorem readChars_of_refused (h : Refused s e) : readChars s = .error e := by
  cases h with
  | unclosed h => exact readChars_of_not_enclosed h
  | inside hinner h =>
      rw [readChars_enclosed hinner, readBundles_of_breaksOff h]
      rfl

theorem spells_or_refused (s : List Char) : (∃ x : Structure, x.Spells s) ∨ ∃ e, Refused s e := by
  by_cases h : ∃ inner, Enclosed inner s
  · obtain ⟨inner, hinner⟩ := h
    rcases spellsAll_or_breaksOff s inner with ⟨bs, hbs⟩ | ⟨e, he⟩
    · exact Or.inl ⟨⟨bs⟩, inner, hinner, hbs⟩
    · exact Or.inr ⟨e, .inside hinner he⟩
  · exact Or.inr ⟨_, .unclosed (not_exists.mp h)⟩

/-- Reading a structure accepts exactly the texts that spell one, and gives the structure they
spell. Any other text is refused for what is wrong at its leftmost place; where that is a text of a
bundle, for what is wrong with it. A feature has no texts but the sixteen. -/
theorem read_eq_iff (s : String) :
    (∀ x, read s = .ok x ↔ x.Spells s.toList) ∧
    (∀ e, read s = .error e ↔ Refused s.toList e) ∧
    (∀ t e, Bundle.read t = .error e ↔ Bundle.Refused t.toList e) ∧
    ∀ t, (∃ f : Feature, f.text = t) ↔ t ∈ Feature.texts := by
  obtain ⟨hok, herror⟩ := eq_iff_of_total (fun _ => readChars_of_spells)
    (fun _ => readChars_of_refused) (spells_or_refused s.toList)
  exact ⟨hok, herror, fun t => (Bundle.readChars_eq_iff t.toList).2,
    fun _ => Feature.exists_text_eq_iff⟩

end Structure

end Agreement
