import Agreement.Paradigm
import Agreement.Proofs.CellString
import Agreement.Proofs.Realisation

/-!
# Paradigms and single cells

The strings that a paradigm is built from all read, each as the bundles of its arguments. Building a
paradigm therefore succeeds, and every position holds what the derivation of its string gives.
-/

namespace Agreement

/-! ## Arguments -/

theorem Argument.all_nodup (dual inclusive : Bool) : (Argument.all dual inclusive).Nodup := by
  cases dual <;> cases inclusive <;> decide

/-! ## Planning -/

namespace Paradigm

variable (alignment : Alignment)

def plannedSole (subject : Argument) : PlannedCell :=
  ⟨subject.text, ⟨[subject.bundle alignment.sole true]⟩⟩

/-- The plan of the position of a subject and an object. -/
def plannedPair (subject object : Argument) : Option PlannedCell :=
  if subject.corefers object then none
  else some ⟨subject.text ++ ">" ++ object.text,
    ⟨[subject.bundle alignment.agent false, object.bundle alignment.patient false]⟩⟩

theorem planCell_text (subject : Argument) :
    planCell alignment subject.text = .ok (plannedSole alignment subject) := by
  rw [planCell, Structure.readCell_text]
  rfl

theorem planObject_eq (subject object : Argument) :
    planObject alignment subject object = .ok (plannedPair alignment subject object) := by
  unfold planObject plannedPair
  split
  · rfl
  · rw [planCell, Structure.readCell_texts]
    rfl

end Paradigm

namespace Grammar

open Paradigm

variable (g : Grammar) (alignment : Alignment)

/-- The objects that the verb agrees with. -/
def objects : List Argument :=
  if g.transitive then g.arguments else []

theorem mem_objects {object : Argument} :
    object ∈ g.objects ↔ g.transitive = true ∧ object ∈ g.arguments := by
  cases h : g.transitive <;> simp [objects, h]

theorem planRow_eq (subject : Argument) :
    g.planRow alignment subject =
      .ok ⟨subject, plannedSole alignment subject,
        g.objects.map (plannedPair alignment subject)⟩ := by
  have hobjects : g.objects.mapM (planObject alignment subject) =
      .ok (g.objects.map (plannedPair alignment subject)) := by
    rw [funext (planObject_eq alignment subject)]
    exact List.mapM_pure
  rw [planRow, ← objects, hobjects, planCell_text]
  rfl

theorem plan_eq :
    g.plan alignment =
      .ok (g.arguments.map fun subject => ⟨subject, plannedSole alignment subject,
        g.objects.map (plannedPair alignment subject)⟩) := by
  rw [plan, funext (g.planRow_eq alignment)]
  exact List.mapM_pure

/-! ## Cells from their arguments -/

def intransitiveCell (subject : Argument) : Logged Cell := do
  let cell : Structure := ⟨[subject.bundle alignment.sole true]⟩
  pure (.realised subject.text (← g.realise cell))

/-- The cell of a subject and an object. -/
def transitiveCell (subject object : Argument) : Logged Cell := do
  if subject.corefers object then pure .excluded
  else
    let cell : Structure :=
      ⟨[subject.bundle alignment.agent false, object.bundle alignment.patient false]⟩
    pure (.realised (subject.text ++ ">" ++ object.text) (← g.realise cell))

def row (subject : Argument) : Logged Row := do
  let intransitive ← g.intransitiveCell alignment subject
  pure ⟨subject, intransitive, ← g.objects.mapM (g.transitiveCell alignment subject)⟩

/-- The paradigm of the grammar, with the cells put together from their arguments. -/
def paradigm : Logged Paradigm := do
  let rows ← g.arguments.mapM (g.row alignment)
  let gaps := (rows.flatMap Row.cells).countP Cell.isGap
  Logged.report (.paradigmBuilt g.name alignment g.arguments.length gaps)
  pure { arguments := g.arguments, transitive := g.transitive, rows }

theorem realiseObject_plannedPair (subject object : Argument) :
    g.realiseObject (plannedPair alignment subject object) =
      g.transitiveCell alignment subject object := by
  unfold plannedPair transitiveCell
  split <;> rfl

theorem realiseRow_planned (subject : Argument) :
    g.realiseRow ⟨subject, plannedSole alignment subject,
        g.objects.map (plannedPair alignment subject)⟩ = g.row alignment subject := by
  simp only [realiseRow, List.mapM_map, Function.comp_def, realiseObject_plannedPair]
  rfl

/-- Building a paradigm from cell strings succeeds, and gives the paradigm put together from the
arguments, with the same events. -/
theorem buildParadigm_eq : g.buildParadigm alignment = .ok <$> g.paradigm alignment := by
  simp only [buildParadigm, plan_eq, List.mapM_map, Function.comp_def, realiseRow_planned]
  simp only [paradigm, map_bind, map_pure]

/-! ## The cells -/

def soleCell (subject : Argument) : Cell :=
  .realised subject.text (g.inserted ⟨[subject.bundle alignment.sole true]⟩)

/-- The cell of a subject and an object. -/
def pairCell (subject object : Argument) : Cell :=
  if subject.corefers object then .excluded
  else .realised (subject.text ++ ">" ++ object.text)
    (g.inserted ⟨[subject.bundle alignment.agent false, object.bundle alignment.patient false]⟩)

def cellRow (subject : Argument) : Row :=
  ⟨subject, g.soleCell alignment subject, g.objects.map (g.pairCell alignment subject)⟩

/-- All cells of a grammar, without the events on the way to them. -/
def cells : Paradigm where
  arguments := g.arguments
  transitive := g.transitive
  rows := g.arguments.map (g.cellRow alignment)

/-- Two paradigms are the same if their grammars have the same switches and insert the same items at
each position, be it into the same cell or not. -/
theorem cells_eq_of_inserted_eq {g h : Grammar} {a a' : Alignment} (hdual : g.dual = h.dual)
    (hinclusive : g.inclusive = h.inclusive) (htransitive : g.transitive = h.transitive)
    (hsole : ∀ subject : Argument, g.inserted ⟨[subject.bundle a.sole true]⟩ =
      h.inserted ⟨[subject.bundle a'.sole true]⟩)
    (hpair : ∀ subject object : Argument,
      g.inserted ⟨[subject.bundle a.agent false, object.bundle a.patient false]⟩ =
        h.inserted ⟨[subject.bundle a'.agent false, object.bundle a'.patient false]⟩) :
    g.cells a = h.cells a' := by
  have harguments : g.arguments = h.arguments := by rw [arguments, arguments, hdual, hinclusive]
  have hobjects : g.objects = h.objects := by rw [objects, objects, htransitive, harguments]
  have hcell : ∀ subject, g.pairCell a subject = h.pairCell a' subject := by
    intro subject
    funext object
    rw [pairCell, pairCell, hpair]
  have hrow : g.cellRow a = h.cellRow a' := by
    funext subject
    rw [cellRow, cellRow, soleCell, soleCell, hsole, hobjects, hcell]
  rw [cells, cells, harguments, htransitive, hrow]

theorem transitiveCell_value (subject object : Argument) :
    (g.transitiveCell alignment subject object).value = g.pairCell alignment subject object := by
  unfold transitiveCell pairCell
  split
  · rfl
  · simp only [Logged.value_bind, Logged.value_pure, realise_value]

theorem row_value (subject : Argument) :
    (g.row alignment subject).value = g.cellRow alignment subject := by
  simp only [row, objects, Logged.value_bind, Logged.value_pure, Logged.value_mapM,
    transitiveCell_value, intransitiveCell, realise_value, soleCell, cellRow]

theorem buildParadigm_value : (g.buildParadigm alignment).value = .ok (g.cells alignment) := by
  simp only [buildParadigm_eq, Logged.value_map, paradigm, Logged.value_bind, Logged.value_pure,
    Logged.value_mapM, row_value, cells]

/-! ## Looking a cell up -/

theorem find?_beq_eq_ite {α : Type} [DecidableEq α] (as : List α) (a : α) :
    as.find? (· == a) = if a ∈ as then some a else none := by
  induction as with
  | nil => rfl
  | cons b as ih =>
      by_cases h : b = a
      · subst h
        simp
      · simp [h, Ne.symm h, ih]

/-- The entry of a list at the position that some element has in another one. -/
theorem findIdx?_bind_getElem?_map {α β : Type} [DecidableEq α] (as : List α) (f : α → β) (a : α) :
    ((as.findIdx? (· == a)).bind fun i => (as.map f)[i]?) = if a ∈ as then some (f a) else none := by
  induction as with
  | nil => rfl
  | cons b as ih =>
      by_cases h : b = a
      · subst h
        simp [List.findIdx?_cons]
      · have hshift : ((as.findIdx? (· == a)).map (· + 1)).bind
              (fun i => ((b :: as).map f)[i]?) =
            (as.findIdx? (· == a)).bind fun i => (as.map f)[i]? := by
          rw [Option.bind_map]
          rfl
        rw [List.findIdx?_cons, beq_false_of_ne h, if_neg Bool.false_ne_true, hshift, ih]
        simp [Ne.symm h]

theorem find?_rows (subject : Argument) :
    (g.cells alignment).rows.find? (·.subject == subject) =
      if subject ∈ g.arguments then some (g.cellRow alignment subject) else none := by
  have hfind : g.arguments.find? ((·.subject == subject) ∘ g.cellRow alignment) =
      if subject ∈ g.arguments then some subject else none :=
    find?_beq_eq_ite g.arguments subject
  rw [cells, List.find?_map, hfind]
  split <;> rfl

theorem cell?_none (subject : Argument) :
    (g.cells alignment).cell? subject none =
      if subject ∈ g.arguments then some (g.soleCell alignment subject) else none := by
  rw [Paradigm.cell?, find?_rows]
  split <;> rfl

theorem cell?_some (subject object : Argument) :
    (g.cells alignment).cell? subject (some object) =
      if g.transitive = true ∧ subject ∈ g.arguments ∧ object ∈ g.arguments then
        some (g.pairCell alignment subject object)
      else none := by
  rw [Paradigm.cell?, find?_rows]
  by_cases hs : subject ∈ g.arguments
  · cases ht : g.transitive with
    | true =>
        have hcell := findIdx?_bind_getElem?_map g.arguments (g.pairCell alignment subject) object
        simpa [hs, cells, cellRow, objects, ht] using hcell
    | false => simp [hs, cellRow, objects, ht]
  · simp [hs]

/-! ## Positions and derivations -/

theorem pairCell_eq_excluded_iff (subject object : Argument) :
    g.pairCell alignment subject object = .excluded ↔ subject.corefers object = true := by
  unfold pairCell
  split <;> simp_all

variable {σ : Type} (w : Observer σ) (t : σ)

theorem derive_text (subject : Argument) :
    (g.derive alignment subject.text w t).value.1 =
      .ok (g.inserted ⟨[subject.bundle alignment.sole true]⟩) := by
  rw [derive_value, Structure.readCell_text]
  rfl

theorem derive_texts (subject object : Argument) :
    (g.derive alignment (subject.text ++ ">" ++ object.text) w t).value.1 =
      .ok (g.inserted
        ⟨[subject.bundle alignment.agent false, object.bundle alignment.patient false]⟩) := by
  rw [derive_value, Structure.readCell_texts]
  rfl

/-- Building a paradigm succeeds. It has a position for exactly the arguments of the language, and a
position that is not excluded holds what the derivation of its cell string returns. -/
theorem buildParadigm_agrees_with_derive :
    ∃ p, (g.buildParadigm alignment).value = .ok p ∧
      p.arguments = g.arguments ∧ p.arguments.Nodup ∧ p.rows.map Row.subject = p.arguments ∧
      (∀ s, (p.cell? s none).isSome = true ↔ s ∈ g.arguments) ∧
      (∀ s c, p.cell? s none = some c →
        ∃ items, c = .realised s.text items ∧
          ∀ (σ : Type) (w : Observer σ) (t : σ),
            (g.derive alignment s.text w t).value.1 = .ok items) ∧
      (∀ s o, (p.cell? s (some o)).isSome = true ↔
        g.transitive = true ∧ s ∈ g.arguments ∧ o ∈ g.arguments) ∧
      (∀ s o c, p.cell? s (some o) = some c →
        (c = .excluded ↔
          (s.person.includesSpeaker = true ∧ o.person.includesSpeaker = true) ∨
            (s.person.includesAddressee = true ∧ o.person.includesAddressee = true)) ∧
        (c ≠ .excluded →
          ∃ items, c = .realised (s.text ++ ">" ++ o.text) items ∧
            ∀ (σ : Type) (w : Observer σ) (t : σ),
              (g.derive alignment (s.text ++ ">" ++ o.text) w t).value.1 = .ok items)) := by
  refine ⟨g.cells alignment, g.buildParadigm_value alignment, rfl, Argument.all_nodup _ _, ?_, ?_,
    ?_, ?_, ?_⟩
  · simp [cells, cellRow, Function.comp_def]
  · intro s
    rw [cell?_none]
    split <;> simp_all
  · intro s c hc
    rw [cell?_none, Option.ite_none_right_eq_some, Option.some.injEq] at hc
    obtain ⟨-, rfl⟩ := hc
    exact ⟨_, rfl, fun _ w t => g.derive_text alignment w t s⟩
  · intro s o
    rw [cell?_some]
    split <;> simp_all
  · intro s o c hc
    rw [cell?_some, Option.ite_none_right_eq_some, Option.some.injEq] at hc
    obtain ⟨-, rfl⟩ := hc
    refine ⟨?_, fun hne => ?_⟩
    · rw [pairCell_eq_excluded_iff, Argument.corefers]
      simp only [Bool.or_eq_true, Bool.and_eq_true]
    · rw [ne_eq, pairCell_eq_excluded_iff] at hne
      refine ⟨_, ?_, fun _ w t => g.derive_texts alignment w t s o⟩
      rw [pairCell, if_neg hne]

end Grammar

end Agreement
