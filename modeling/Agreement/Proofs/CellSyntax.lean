import Agreement.Proofs.CellString
import Agreement.Proofs.Syntax

/-!
# The syntax of cell strings

A cell string is a row of sides with `>` between them. Which rows are cells, and what is wrong with
the others, is said without regard to how they are read. Reading accepts exactly the cell strings of
this syntax. It refuses any other one for a second `>`, or else for its first side that is no
argument. The alignment decides on the cases that are read, and on nothing else.
-/

namespace Agreement

open Text

/-! ## Arguments -/

/-- Whether a text is an argument: one or more of the characters that arguments are written with. -/
def IsArgument (side : List Char) : Prop :=
  side ≠ [] ∧ ∀ c ∈ side, c ∈ argumentCharacters

theorem IsArgument.delimiter_not_mem {side : List Char} (h : IsArgument side) : '>' ∉ side :=
  fun hmem => absurd (h.2 _ hmem) (by decide)

namespace Structure

/-- What is wrong with a side of a cell string that is no argument. -/
inductive SideRefused (cell : String) (side : List Char) : InputError → Prop
  | empty : side = [] → SideRefused cell side (.emptyArgument cell)
  | foreign {before c after} : lower side = before ++ c :: after →
      (∀ d ∈ before, d ∈ argumentAlphabet) → c ∉ argumentAlphabet →
      SideRefused cell side (.invalidToken (String.ofList (lower side)) c)

section

variable {cell : String} {label : Case} {sole : Bool} {side : List Char} {e : InputError}

theorem readSide_of_isArgument (h : IsArgument side) :
    readSide cell label sole side = .ok (.ofLetters label sole (lower side)) := by
  have hlower := forall_mem_lower_iff.mpr h.2
  have hlower_ne : lower side ≠ [] := mt lower_eq_nil_iff.mp h.1
  have hnone : (lower side).find? (!argumentAlphabet.contains ·) = none := by
    rw [List.find?_eq_none]
    intro c hc
    simp [hlower c hc]
  rw [readSide, List.isEmpty_eq_false_iff.mpr h.1, if_neg Bool.false_ne_true, Bundle.readArgument]
  simp only [hnone, List.isEmpty_eq_false_iff.mpr hlower_ne, if_neg Bool.false_ne_true]

theorem readSide_of_refused (h : SideRefused cell side e) :
    readSide cell label sole side = .error e := by
  cases h with
  | empty hside =>
      subst hside
      rfl
  | @foreign before c after hsplit hbefore hc =>
      have hne : side ≠ [] := by
        rintro rfl
        exact List.append_ne_nil_of_right_ne_nil before (List.cons_ne_nil c after) hsplit.symm
      have hfind : (lower side).find? (!argumentAlphabet.contains ·) = some c := by
        rw [List.find?_eq_some_iff_append]
        refine ⟨by simpa using hc, before, after, hsplit, fun d hd => ?_⟩
        simpa using hbefore d hd
      rw [readSide, List.isEmpty_eq_false_iff.mpr hne, if_neg Bool.false_ne_true,
        Bundle.readArgument]
      simp only [hfind]

theorem isArgument_or_sideRefused (cell : String) (side : List Char) :
    IsArgument side ∨ ∃ e, SideRefused cell side e := by
  by_cases hne : side = []
  · exact Or.inr ⟨_, .empty hne⟩
  cases hfind : (lower side).find? (!argumentAlphabet.contains ·) with
  | none =>
      rw [List.find?_eq_none] at hfind
      exact Or.inl ⟨hne, forall_mem_lower_iff.mp fun c hc => by simpa using hfind c hc⟩
  | some c =>
      rw [List.find?_eq_some_iff_append] at hfind
      obtain ⟨hc, before, after, hsplit, hbefore⟩ := hfind
      have hforeign : c ∉ argumentAlphabet := by simpa using hc
      exact Or.inr ⟨_, .foreign hsplit (fun d hd => by simpa using hbefore d hd) hforeign⟩

end

/-! ## Sides -/

/-- The sides of a cell string. The empty one has none, and any other has one for what is before,
between or after its delimiters each. -/
def sides (cell : String) : List (List Char) :=
  if cell = "" then [] else cell.toList.splitOn '>'

section

variable {cell : String}

theorem sides_of_ne_empty (hne : cell ≠ "") : sides cell = cell.toList.splitOn '>' :=
  if_neg hne

theorem sides_of_not_mem (hne : cell ≠ "") (h : '>' ∉ cell.toList) :
    sides cell = [cell.toList] := by
  rw [sides_of_ne_empty hne, List.splitOn_eq_singleton h]

theorem sides_of_eq_append {agent patient : List Char}
    (hcell : cell.toList = agent ++ '>' :: patient) (hagent : '>' ∉ agent) :
    sides cell = agent :: patient.splitOn '>' := by
  have hne : cell ≠ "" := by
    rintro rfl
    simp at hcell
  rw [sides_of_ne_empty hne, hcell, List.splitOn_append_cons_self_of_not_mem hagent]

/-- The sides with the delimiters between them are the cell string. -/
theorem intercalate_sides (cell : String) : ['>'].intercalate (sides cell) = cell.toList := by
  by_cases hne : cell = ""
  · subst hne
    rfl
  · rw [sides_of_ne_empty hne, List.intercalate_splitOn]

theorem length_splitOn (delimiter : Char) (s : List Char) :
    (s.splitOn delimiter).length = s.count delimiter + 1 := by
  induction s with
  | nil => rfl
  | cons c s ih =>
      rw [List.splitOn_cons_eq_if_modifyHead]
      by_cases hc : c = delimiter
      · simp [hc, ih]
      · simp [hc, ih]

theorem length_sides (cell : String) :
    (sides cell).length = if cell = "" then 0 else cell.toList.count '>' + 1 := by
  by_cases hne : cell = ""
  · subst hne
    rfl
  · rw [sides_of_ne_empty hne, length_splitOn, if_neg hne]

theorem length_sides_le_iff : (sides cell).length ≤ 2 ↔ cell.toList.count '>' ≤ 1 := by
  rw [length_sides]
  by_cases hne : cell = ""
  · simp [hne]
  · rw [if_neg hne]
    omega

theorem sides_eq_nil_iff : sides cell = [] ↔ cell = "" := by
  rw [← List.length_eq_zero_iff, length_sides]
  by_cases hne : cell = "" <;> simp [hne]

theorem delimiter_mem_iff : '>' ∈ cell.toList ↔ 2 ≤ (sides cell).length := by
  rw [length_sides, ← List.count_pos_iff]
  by_cases hne : cell = ""
  · simp [hne]
  · rw [if_neg hne]
    omega

/-- A cell string is read by its sides, and refused as a whole if there are more than two. -/
theorem readCell_eq_match_sides (alignment : Alignment) (cell : String) :
    readCell alignment cell =
      match sides cell with
      | [] => .ok ⟨[]⟩
      | [sole] => do
          pure ⟨[← readSide cell alignment.sole true sole]⟩
      | [agent, patient] => do
          let agent ← readSide cell alignment.agent false agent
          let patient ← readSide cell alignment.patient false patient
          pure ⟨[agent, patient]⟩
      | _ => .error (.ambiguousDelimiter cell) := by
  by_cases hne : cell = ""
  · subst hne
    rfl
  by_cases hmem : '>' ∈ cell.toList
  · obtain ⟨agent, patient, hcell, hagent⟩ := List.eq_append_cons_of_mem hmem
    rw [readCell_of_eq_append alignment hcell hagent, sides_of_eq_append hcell hagent]
    by_cases hpatient : '>' ∈ patient
    · obtain ⟨second, rest, hrest, hsecond⟩ := List.eq_append_cons_of_mem hpatient
      obtain ⟨third, more, hmore⟩ := List.exists_cons_of_ne_nil (List.splitOn_ne_nil '>' rest)
      rw [if_pos hpatient, hrest, List.splitOn_append_cons_self_of_not_mem hsecond, hmore]
    · rw [if_neg hpatient, List.splitOn_eq_singleton hpatient]
  · have hnil : cell.toList ≠ [] := mt String.toList_eq_nil_iff.mp hne
    rw [readCell_of_not_mem alignment hnil hmem, sides_of_not_mem hne hmem]

end

/-! ## Cells -/

/-- What the sides of a cell string spell, if they are arguments. -/
inductive SpellsCell (alignment : Alignment) : Structure → List (List Char) → Prop
  | empty : SpellsCell alignment ⟨[]⟩ []
  | sole {side} : IsArgument side →
      SpellsCell alignment ⟨[.ofLetters alignment.sole true (lower side)]⟩ [side]
  | both {agent patient} : IsArgument agent → IsArgument patient →
      SpellsCell alignment
        ⟨[.ofLetters alignment.agent false (lower agent),
          .ofLetters alignment.patient false (lower patient)]⟩
        [agent, patient]

/-- What is wrong with a text that is no cell string. A second delimiter comes before anything else;
then the sides are looked at from the left, up to one that is no argument. -/
inductive CellRefused (cell : String) : InputError → Prop
  | delimiters : 2 ≤ cell.toList.count '>' → CellRefused cell (.ambiguousDelimiter cell)
  | side {before side after e} : cell.toList.count '>' ≤ 1 →
      sides cell = before ++ side :: after → (∀ earlier ∈ before, IsArgument earlier) →
      SideRefused cell side e → CellRefused cell e

variable {alignment : Alignment} {cell : String} {c : Structure} {e : InputError}

theorem readCell_of_spellsCell (h : SpellsCell alignment c (sides cell)) :
    readCell alignment cell = .ok c := by
  rw [readCell_eq_match_sides]
  generalize sides cell = sides at h
  cases h with
  | empty => rfl
  | sole hside =>
      simp only [readSide_of_isArgument hside]
      rfl
  | both hagent hpatient =>
      simp only [readSide_of_isArgument hagent, readSide_of_isArgument hpatient]
      rfl

theorem readCell_of_cellRefused (h : CellRefused cell e) : readCell alignment cell = .error e := by
  cases h with
  | delimiters hcount =>
      have hmem : '>' ∈ cell.toList := List.count_pos_iff.mp (by omega)
      obtain ⟨agent, patient, hcell, hagent⟩ := List.eq_append_cons_of_mem hmem
      rw [hcell, List.count_append, List.count_eq_zero.mpr hagent, List.count_cons_self] at hcount
      have hpatient : '>' ∈ patient := List.count_pos_iff.mp (by omega)
      rw [readCell_of_eq_append alignment hcell hagent, if_pos hpatient]
  | @side before side after e hcount hsides hbefore hside =>
      have hlength := length_sides_le_iff.mpr hcount
      rw [hsides] at hlength
      rw [readCell_eq_match_sides, hsides]
      -- At most one side comes before the one at fault, and it has been read by then.
      rcases before with _ | ⟨agent, _ | ⟨_, _⟩⟩
      · rcases after with _ | ⟨patient, _ | ⟨_, _⟩⟩
        · simp only [List.nil_append, readSide_of_refused hside]
          rfl
        · simp only [List.nil_append, readSide_of_refused hside]
          rfl
        · simp at hlength
      · obtain rfl : after = [] := by simpa using hlength
        have hagent := hbefore agent List.mem_cons_self
        simp only [List.singleton_append, readSide_of_isArgument hagent, readSide_of_refused hside]
        rfl
      · simp at hlength

/-- Of several sides that are no arguments there is a first one. -/
theorem isArgument_or_first_refused (cell : String) (us : List (List Char)) :
    (∀ u ∈ us, IsArgument u) ∨
      ∃ before side after e, us = before ++ side :: after ∧
        (∀ earlier ∈ before, IsArgument earlier) ∧ SideRefused cell side e := by
  induction us with
  | nil => exact Or.inl (List.forall_mem_nil _)
  | cons u us ih =>
      rcases isArgument_or_sideRefused cell u with hu | ⟨e, he⟩
      · rcases ih with hus | ⟨before, side, after, e, rfl, hbefore, he⟩
        · exact Or.inl (List.forall_mem_cons.mpr ⟨hu, hus⟩)
        · exact Or.inr ⟨u :: before, side, after, e, rfl,
            List.forall_mem_cons.mpr ⟨hu, hbefore⟩, he⟩
      · exact Or.inr ⟨[], u, us, e, rfl, List.forall_mem_nil _, he⟩

theorem exists_spellsCell (alignment : Alignment) {us : List (List Char)} (hlength : us.length ≤ 2)
    (h : ∀ u ∈ us, IsArgument u) : ∃ c, SpellsCell alignment c us := by
  rcases us with _ | ⟨agent, _ | ⟨patient, _ | ⟨_, _⟩⟩⟩
  · exact ⟨_, .empty⟩
  · exact ⟨_, .sole (h agent List.mem_cons_self)⟩
  · rw [List.forall_mem_cons, List.forall_mem_singleton] at h
    exact ⟨_, .both h.1 h.2⟩
  · simp at hlength

theorem spellsCell_or_cellRefused (alignment : Alignment) (cell : String) :
    (∃ c, SpellsCell alignment c (sides cell)) ∨ ∃ e, CellRefused cell e := by
  by_cases hcount : cell.toList.count '>' ≤ 1
  · rcases isArgument_or_first_refused cell (sides cell) with
      hall | ⟨_, _, _, e, hsides, hbefore, he⟩
    · exact Or.inl (exists_spellsCell alignment (length_sides_le_iff.mpr hcount) hall)
    · exact Or.inr ⟨e, .side hcount hsides hbefore he⟩
  · exact Or.inr ⟨_, .delimiters (by omega)⟩

theorem readCell_eq_iff (alignment : Alignment) (cell : String) :
    (∀ c, readCell alignment cell = .ok c ↔ SpellsCell alignment c (sides cell)) ∧
    ∀ e, readCell alignment cell = .error e ↔ CellRefused cell e :=
  eq_iff_of_total (fun _ => readCell_of_spellsCell) (fun _ => readCell_of_cellRefused)
    (spellsCell_or_cellRefused alignment cell)

end Structure

/-! ## The alignment -/

/-- The bundle with the slot of the case emptied. -/
def Bundle.caseless (b : Bundle) : Bundle :=
  { b with case := none }

/-- The structure with the cases of all bundles taken out. -/
def Structure.caseless (s : Structure) : Structure :=
  ⟨s.bundles.map Bundle.caseless⟩

namespace Structure

theorem SpellsCell.exists_caseless_eq {us : List (List Char)} (h : SpellsCell alignment c us)
    (other : Alignment) : ∃ c', SpellsCell other c' us ∧ c'.caseless = c.caseless := by
  cases h with
  | empty => exact ⟨_, .empty, rfl⟩
  | sole hside => exact ⟨_, .sole hside, rfl⟩
  | both hagent hpatient => exact ⟨_, .both hagent hpatient, rfl⟩

/-- Whatever the alignment, a cell string reads as the same cell up to the cases, or it is refused
for the same reason. -/
theorem readCell_caseless (a a' : Alignment) (cell : String) :
    (readCell a cell).map caseless = (readCell a' cell).map caseless := by
  obtain ⟨hok, herror⟩ := readCell_eq_iff a cell
  cases h : readCell a cell with
  | error e => rw [readCell_of_cellRefused ((herror e).mp h)]
  | ok c =>
      obtain ⟨c', hc', hcaseless⟩ := ((hok c).mp h).exists_caseless_eq a'
      rw [readCell_of_spellsCell hc']
      exact congrArg Except.ok hcaseless.symm

/-! ## Acceptance -/

/-- The sides that spell a cell belong to the empty text, to an argument, or to two arguments with a
delimiter between them. -/
theorem exists_spellsCell_sides_iff :
    (∃ c, SpellsCell alignment c (sides cell)) ↔
      cell = "" ∨ IsArgument cell.toList ∨
        ∃ agent patient, cell.toList = agent ++ '>' :: patient ∧ IsArgument agent ∧
          IsArgument patient := by
  constructor
  · rintro ⟨c, h⟩
    have hcell := intercalate_sides cell
    generalize sides cell = us at h hcell
    cases h with
    | empty => exact Or.inl (String.toList_eq_nil_iff.mp hcell.symm)
    | sole hside =>
        rw [List.intercalate_singleton] at hcell
        exact Or.inr (Or.inl (hcell ▸ hside))
    | both hagent hpatient =>
        exact Or.inr (Or.inr ⟨_, _, hcell.symm.trans (by simp), hagent, hpatient⟩)
  · rintro (rfl | hside | ⟨agent, patient, hcell, hagent, hpatient⟩)
    · exact ⟨_, .empty⟩
    · have hne : cell ≠ "" := mt String.toList_eq_nil_iff.mpr hside.1
      rw [sides_of_not_mem hne hside.delimiter_not_mem]
      exact ⟨_, .sole hside⟩
    · rw [sides_of_eq_append hcell hagent.delimiter_not_mem,
        List.splitOn_eq_singleton hpatient.delimiter_not_mem]
      exact ⟨_, .both hagent hpatient⟩

theorem readCell_accepts_iff (a a' : Alignment) (cell : String) :
    (∃ c, readCell a cell = .ok c) ↔ ∃ c, readCell a' cell = .ok c := by
  rw [exists_congr (readCell_eq_iff a cell).1, exists_congr (readCell_eq_iff a' cell).1,
    exists_spellsCell_sides_iff, exists_spellsCell_sides_iff]

/-- A cell string reads exactly if it is empty, an argument, or two arguments with a `>` between
them. Any other text is refused in either alignment, and for the same reason: for a second `>`
whatever else is wrong with it, or else for its first side that is empty or has a character outside
the alphabet in lower case. -/
theorem readCell_reads_or_refuses (alignment : Alignment) (cell : String) :
    ((∃ c, readCell alignment cell = .ok c) ↔
      cell = "" ∨ IsArgument cell.toList ∨
        ∃ agent patient, cell.toList = agent ++ '>' :: patient ∧ IsArgument agent ∧
          IsArgument patient) ∧
    ∀ e, readCell alignment cell = .error e ↔ CellRefused cell e := by
  obtain ⟨hok, herror⟩ := readCell_eq_iff alignment cell
  exact ⟨(exists_congr hok).trans exists_spellsCell_sides_iff, herror⟩

/-- A capital may leave something behind that no argument has. -/
example : readCell .accusative "1s>2İ" = .error (.invalidToken "2i\u0307" '\u0307') := rfl

end Structure

end Agreement
