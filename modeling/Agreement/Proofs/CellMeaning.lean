import Mathlib.Logic.Relation
import Agreement.Proofs.CellSyntax

/-!
# What cell strings mean

A side of a cell string asserts some of the persons and numbers, and its bundle says which; nothing
else about the side gets into the cell. The number of sides and the alignment decide on the rest.
So two cell strings are the same cell exactly if they have equally many sides and these assert the
same, one by one.
-/

namespace Agreement

open Text

/-! ## Letters -/

/-- Whether the letters of an argument assert an attribute. The inclusive asserts the addressee, the
dual asserts nothing, and no letter tells whether the argument is the only one. -/
def Attribute.AssertedBy (a : Attribute) (letters : List Char) : Prop :=
  match a with
  | person1 => '1' ∈ letters
  | person2 => '2' ∈ letters ∨ 'i' ∈ letters
  | person3 => '3' ∈ letters
  | singular => 's' ∈ letters
  | plural => 'p' ∈ letters
  | intransitive => False

/-- Whether two texts assert the same attributes in lower case. -/
def Alike (u v : List Char) : Prop :=
  ∀ a : Attribute, a.AssertedBy (lower u) ↔ a.AssertedBy (lower v)

theorem alike_of_mem_iff {u v : List Char} (h : ∀ x, x ≠ 'd' → (x ∈ lower u ↔ x ∈ lower v)) :
    Alike u v := by
  intro a
  cases a with
  | person1 => exact h '1' (by decide)
  | person2 => exact or_congr (h '2' (by decide)) (h 'i' (by decide))
  | person3 => exact h '3' (by decide)
  | singular => exact h 's' (by decide)
  | plural => exact h 'p' (by decide)
  | intransitive => exact Iff.rfl

/-- One step from an argument to another spelling of it. -/
inductive Respelled : List Char → List Char → Prop
  | reordered {u v} : u.Perm v → Respelled u v
  | repeated {c u} : c ∈ u → Respelled u (c :: u)
  | recased {u v} : lower u = lower v → Respelled u v
  | dual {u} : Respelled u ('d' :: u)

/-- An argument stays one however it is respelled, and it keeps its letters up to the `d`. -/
theorem Respelled.isArgument {u v : List Char} (h : Respelled u v) (hu : IsArgument u) :
    IsArgument v ∧ ∀ x, x ≠ 'd' → (x ∈ lower u ↔ x ∈ lower v) := by
  obtain ⟨hne, hletters⟩ := hu
  cases h with
  | reordered hperm =>
      have hv : ∀ c ∈ v, c ∈ argumentCharacters := fun c hc => hletters c (hperm.mem_iff.mpr hc)
      refine ⟨⟨fun hnil => hne (hnil ▸ hperm).eq_nil, hv⟩, fun x _ => ?_⟩
      rw [lower_eq_map hletters, lower_eq_map hv]
      exact (hperm.map lowerChar).mem_iff
  | @repeated c _ hc =>
      have hv := List.forall_mem_cons.mpr ⟨hletters c hc, hletters⟩
      refine ⟨⟨List.cons_ne_nil c u, hv⟩, fun x _ => ?_⟩
      rw [lower_eq_map hletters, lower_eq_map hv, List.map_cons, List.mem_cons]
      refine (or_iff_right_of_imp ?_).symm
      rintro rfl
      exact List.mem_map_of_mem hc
  | recased hlower =>
      have hv : ∀ c ∈ lower v, c ∈ argumentAlphabet := hlower ▸ forall_mem_lower_iff.mpr hletters
      refine ⟨⟨fun hnil => hne ?_, forall_mem_lower_iff.mp hv⟩, fun x _ => by rw [hlower]⟩
      rw [← lower_eq_nil_iff, hlower, lower_eq_nil_iff.mpr hnil]
  | dual =>
      have hd : 'd' ∈ argumentCharacters := by decide
      have hv := List.forall_mem_cons.mpr ⟨hd, hletters⟩
      refine ⟨⟨List.cons_ne_nil _ u, hv⟩, fun x hx => ?_⟩
      have hlow : lowerChar 'd' = 'd' := rfl
      rw [lower_eq_map hletters, lower_eq_map hv, List.map_cons, hlow, List.mem_cons,
        or_iff_right hx]

theorem respelled_isArgument {u v : List Char} (h : Relation.ReflTransGen Respelled u v)
    (hu : IsArgument u) : IsArgument v ∧ ∀ x, x ≠ 'd' → (x ∈ lower u ↔ x ∈ lower v) := by
  induction h with
  | refl => exact ⟨hu, fun _ _ => Iff.rfl⟩
  | tail _ hstep ih =>
      obtain ⟨hmid, hsame⟩ := ih
      obtain ⟨hv, hsame'⟩ := hstep.isArgument hmid
      exact ⟨hv, fun x hx => (hsame x hx).trans (hsame' x hx)⟩

theorem alike_of_respelled {us vs : List (List Char)}
    (h : List.Forall₂ (Relation.ReflTransGen Respelled) us vs) (hus : ∀ u ∈ us, IsArgument u) :
    (∀ v ∈ vs, IsArgument v) ∧ List.Forall₂ Alike us vs := by
  induction h with
  | nil => exact ⟨List.forall_mem_nil _, .nil⟩
  | cons hu _ ih =>
      rw [List.forall_mem_cons] at hus ⊢
      obtain ⟨hv, hmem⟩ := respelled_isArgument hu hus.1
      obtain ⟨hvs, halike⟩ := ih hus.2
      exact ⟨⟨hv, hvs⟩, .cons (alike_of_mem_iff hmem) halike⟩

/-! ## Bundles -/

namespace Bundle

/-- Whether a bundle has a sign for each person and number, positive where the letters assert it. -/
structure Describes (b : Bundle) (letters : List Char) : Prop where
  plus_iff : ∀ a ≠ .intransitive, b.sign a = some .plus ↔ a.AssertedBy letters
  minus_iff : ∀ a ≠ .intransitive, b.sign a = some .minus ↔ ¬ a.AssertedBy letters

section

variable (label : Case) (sole : Bool) (letters : List Char)

theorem sign_ofLetters {a : Attribute} (ha : a ≠ .intransitive) :
    ∃ holds : Bool, (ofLetters label sole letters).sign a = some (.ofBool holds) ∧
      (holds = true ↔ a.AssertedBy letters) := by
  cases a with
  | person1 => exact ⟨_, rfl, List.contains_iff_mem⟩
  | person2 =>
      exact ⟨_, rfl,
        Bool.or_eq_true_iff.trans (or_congr List.contains_iff_mem List.contains_iff_mem)⟩
  | person3 => exact ⟨_, rfl, List.contains_iff_mem⟩
  | singular => exact ⟨_, rfl, List.contains_iff_mem⟩
  | plural => exact ⟨_, rfl, List.contains_iff_mem⟩
  | intransitive => exact absurd rfl ha

theorem describes_ofLetters : (ofLetters label sole letters).Describes letters where
  plus_iff a ha := by
    obtain ⟨holds, hsign, hholds⟩ := sign_ofLetters label sole letters ha
    rw [hsign, ← hholds]
    cases holds <;> decide
  minus_iff a ha := by
    obtain ⟨holds, hsign, hholds⟩ := sign_ofLetters label sole letters ha
    rw [hsign, ← hholds]
    cases holds <;> decide

end

variable {b c : Bundle} {u v : List Char}

/-- Of two fully specified bundles one is part of the other only if they say the same. -/
theorem Describes.assertedBy_iff (hb : b.Describes u) (hc : c.Describes v) (hsub : b ⊆ c)
    (a : Attribute) : a.AssertedBy u ↔ a.AssertedBy v := by
  by_cases ha : a = .intransitive
  · subst ha
    exact Iff.rfl
  have hsign : ∀ s, b.sign a = some s → c.sign a = some s := fun s hs =>
    signed_mem_iff.mp (hsub (signed_mem_iff.mpr hs))
  constructor
  · intro hu
    exact (hc.plus_iff a ha).mp (hsign .plus ((hb.plus_iff a ha).mpr hu))
  · intro hv
    by_contra hu
    exact (hc.minus_iff a ha).mp (hsign .minus ((hb.minus_iff a ha).mpr hu)) hv

/-- A bundle is determined by its case, its mark of a sole argument and what its letters assert. -/
theorem ofLetters_congr (label : Case) (sole : Bool)
    (h : ∀ a : Attribute, a.AssertedBy u ↔ a.AssertedBy v) :
    ofLetters label sole u = ofLetters label sole v := by
  have hb := describes_ofLetters label sole u
  have hc := describes_ofLetters label sole v
  refine ext_mem fun f => ?_
  cases f with
  | case l => exact Iff.rfl
  | signed a s =>
      rw [signed_mem_iff, signed_mem_iff]
      by_cases ha : a = .intransitive
      · subst ha
        exact Iff.rfl
      · cases s with
        | plus => rw [hb.plus_iff a ha, hc.plus_iff a ha, h a]
        | minus => rw [hb.minus_iff a ha, hc.minus_iff a ha, h a]

theorem ofLetters_eq_iff (label : Case) (sole : Bool) :
    ofLetters label sole u = ofLetters label sole v ↔
      ∀ a : Attribute, a.AssertedBy u ↔ a.AssertedBy v := by
  constructor
  · intro h
    exact (describes_ofLetters label sole u).assertedBy_iff (describes_ofLetters label sole v)
      (h ▸ fun _ hf => hf)
  · exact ofLetters_congr label sole

end Bundle

/-! ## Cells -/

/-- The cases of the arguments of a clause, by their number. -/
def Alignment.roles (a : Alignment) : Nat → List Case
  | 0 => []
  | 1 => [a.sole]
  | _ => [a.agent, a.patient]

namespace Structure

variable {alignment : Alignment} {c d : Structure} {us vs : List (List Char)}

namespace SpellsCell

theorem length_le (h : SpellsCell alignment c us) : us.length ≤ 2 := by
  cases h <;> simp

theorem isArgument (h : SpellsCell alignment c us) : ∀ u ∈ us, IsArgument u := by
  cases h with
  | empty => exact List.forall_mem_nil _
  | sole hside => exact List.forall_mem_singleton.mpr hside
  | both hagent hpatient =>
      exact List.forall_mem_cons.mpr ⟨hagent, List.forall_mem_singleton.mpr hpatient⟩

/-- Cells are equal if their sides assert the same, one by one. -/
theorem eq_iff (hc : SpellsCell alignment c us) (hd : SpellsCell alignment d vs) :
    c = d ↔ List.Forall₂ Alike us vs := by
  cases hc with
  | empty => cases hd <;> simp
  | sole hu =>
      cases hd with
      | empty => simp
      | sole hv => simp [Bundle.ofLetters_eq_iff, Alike]
      | both hagent hpatient => simp
  | both hu hu' =>
      cases hd with
      | empty => simp
      | sole hv => simp
      | both hv hv' => simp [Bundle.ofLetters_eq_iff, Alike]

/-- However the sides are respelled, they spell the same cell. -/
theorem of_respelled (hc : SpellsCell alignment c us)
    (h : List.Forall₂ (Relation.ReflTransGen Respelled) us vs) : SpellsCell alignment c vs := by
  obtain ⟨hvs, halike⟩ := alike_of_respelled h hc.isArgument
  obtain ⟨d, hd⟩ := exists_spellsCell alignment (h.length_eq ▸ hc.length_le) hvs
  obtain rfl := (hc.eq_iff hd).mpr halike
  exact hd

theorem describes (h : SpellsCell alignment c us) :
    List.Forall₂ (fun u b => b.Describes (lower u) ∧
      b.sign .intransitive = if 2 ≤ us.length then none else some .plus) us c.bundles := by
  cases h with
  | empty => exact .nil
  | sole => exact .cons ⟨Bundle.describes_ofLetters .., rfl⟩ .nil
  | both =>
      exact .cons ⟨Bundle.describes_ofLetters .., rfl⟩
        (.cons ⟨Bundle.describes_ofLetters .., rfl⟩ .nil)

theorem map_case (h : SpellsCell alignment c us) :
    c.bundles.map Bundle.case = (alignment.roles us.length).map some := by
  cases h <;> rfl

end SpellsCell

/-- With the sides, the number of delimiters is the same, and whether there is any side at all. -/
theorem forall₂_alike_sides_iff {s t : String} :
    List.Forall₂ Alike (sides s) (sides t) ↔
      s = "" ∧ t = "" ∨
      s ≠ "" ∧ t ≠ "" ∧ s.toList.count '>' = t.toList.count '>' ∧
        List.Forall₂ Alike (sides s) (sides t) := by
  constructor
  · intro h
    have hlength := h.length_eq
    rw [length_sides, length_sides] at hlength
    by_cases hs : s = ""
    · by_cases ht : t = ""
      · exact Or.inl ⟨hs, ht⟩
      · rw [if_pos hs, if_neg ht] at hlength
        omega
    · by_cases ht : t = ""
      · rw [if_neg hs, if_pos ht] at hlength
        omega
      · rw [if_neg hs, if_neg ht] at hlength
        exact Or.inr ⟨hs, ht, by omega, h⟩
  · rintro (⟨rfl, rfl⟩ | ⟨-, -, -, h⟩)
    · exact .nil
    · exact h

/-- Two cell strings read as the same cell exactly if both are empty, or neither is, they have as
many delimiters, and their sides assert the same, one by one in lower case. So a side may be
respelled in any way. The cell has a bundle for each side, in the case of its role, with a sign for
each person and number, positive where the side asserts it, and `+intr` if there is no delimiter.
The alignment decides on the cases and on nothing else. -/
theorem readCell_eq_iff_alike {s t : String} (hs : readCell alignment s = .ok c)
    (ht : readCell alignment t = .ok d) :
    (c = d ↔ s = "" ∧ t = "" ∨
      s ≠ "" ∧ t ≠ "" ∧ s.toList.count '>' = t.toList.count '>' ∧
        List.Forall₂ (fun u v => ∀ a : Attribute, a.AssertedBy (lower u) ↔ a.AssertedBy (lower v))
          (sides s) (sides t)) ∧
    (∀ respelled, List.Forall₂ (Relation.ReflTransGen Respelled) (sides s) (sides respelled) →
      readCell alignment respelled = .ok c) ∧
    s.toList.count '>' ≤ 1 ∧
    List.Forall₂ (fun u b => b.Describes (lower u) ∧
      b.sign .intransitive = if '>' ∈ s.toList then none else some .plus) (sides s) c.bundles ∧
    c.bundles.map Bundle.case = (alignment.roles (sides s).length).map some ∧
    ∀ other, ∃ c', readCell other s = .ok c' ∧ c'.caseless = c.caseless ∧
      c'.bundles.map Bundle.case = (other.roles (sides s).length).map some := by
  have hc := ((readCell_eq_iff alignment s).1 c).mp hs
  have hd := ((readCell_eq_iff alignment t).1 d).mp ht
  refine ⟨(hc.eq_iff hd).trans forall₂_alike_sides_iff,
    fun _ h => readCell_of_spellsCell (hc.of_respelled h), length_sides_le_iff.mp hc.length_le,
    ?_, hc.map_case, fun other => ?_⟩
  · simp only [delimiter_mem_iff]
    exact hc.describes
  · obtain ⟨c', hc', hcaseless⟩ := hc.exists_caseless_eq other
    exact ⟨c', readCell_of_spellsCell hc', hcaseless, hc'.map_case⟩

/-- The inclusive dual has several spellings, none of which is the exclusive dual. -/
theorem inclusiveDual_respelled :
    ∃ c d, readCell .ergative "1di>3s" = .ok c ∧ readCell .ergative "1d>3s" = .ok d ∧ c ≠ d ∧
      readCell .ergative "ID1i>S3" = .ok c := by
  have hs : readCell .ergative "1di>3s" = .ok
      ⟨[.ofLetters .ergative false ['1', 'd', 'i'], .ofLetters .absolutive false ['3', 's']]⟩ := rfl
  have ht : readCell .ergative "1d>3s" = .ok
      ⟨[.ofLetters .ergative false ['1', 'd'], .ofLetters .absolutive false ['3', 's']]⟩ := rfl
  obtain ⟨heq, hrespelled, -⟩ := readCell_eq_iff_alike hs ht
  refine ⟨_, _, hs, ht, fun h => ?_, hrespelled "ID1i>S3" ?_⟩
  · rcases heq.mp h with ⟨hempty, -⟩ | ⟨-, -, -, halike⟩
    · exact absurd hempty (by decide)
    · have hsides : sides "1di>3s" = [['1', 'd', 'i'], ['3', 's']] := rfl
      have hsides' : sides "1d>3s" = [['1', 'd'], ['3', 's']] := rfl
      rw [hsides, hsides', List.forall₂_cons] at halike
      have hexclusive : ¬ ('2' ∈ lower ['1', 'd'] ∨ 'i' ∈ lower ['1', 'd']) := by decide
      exact hexclusive ((halike.1 .person2).mp (Or.inr (by decide)))
  · have hagain : Respelled ['1', 'd', 'i'] ['i', '1', 'd', 'i'] := .repeated (by decide)
    have horder : Respelled ['i', '1', 'd', 'i'] ['i', 'd', '1', 'i'] :=
      .reordered ((List.Perm.swap 'd' '1' ['i']).cons 'i')
    have hcase : Respelled ['i', 'd', '1', 'i'] ['I', 'D', '1', 'i'] := .recased (by decide +kernel)
    have horder' : Respelled ['3', 's'] ['s', '3'] := .reordered (List.Perm.swap 's' '3' [])
    have hcase' : Respelled ['s', '3'] ['S', '3'] := .recased (by decide +kernel)
    have hagent := ((Relation.ReflTransGen.single hagain).tail horder).tail hcase
    have hpatient := (Relation.ReflTransGen.single horder').tail hcase'
    exact .cons hagent (.cons hpatient .nil)

end Structure

end Agreement
