import Agreement.Proofs.Paradigm

/-!
# What is reported of a paradigm

A cell that is realised without an observer reports the rules that fire and then its forms. The
reports of a paradigm are those of its cells in table order, with nothing for an excluded one, and a
summary at the end.
-/

namespace Agreement

/-- What the log shows of an event. -/
structure Event.Entry where
  level : Level
  message : String
  fields : List (String × Event.Value)
deriving DecidableEq

def Event.entry (e : Event) : Event.Entry :=
  ⟨e.level, e.message, e.fields⟩

/-! ## Cells -/

/-- The rules that fire report in their order, and nothing else does. -/
theorem applyRules_silent_events (cell : Structure) (index : Nat) (rules : List Rule)
    (items : List Item) :
    (applyRules .silent cell index rules items ()).events =
      (rules.filter (·.fires cell)).map (.ruleFired cell) := by
  induction rules generalizing index items with
  | nil => rfl
  | cons r rules ih =>
      have hrule : ∀ fired, Observer.silent.rule index r fired () = pure () := fun _ => rfl
      rw [applyRules, hrule, hrule]
      cases hr : r.fires cell with
      | true => simp [ih, hr]
      | false => simp [ih, hr]

namespace Grammar

/-- The reports of a cell that nobody observes. -/
def reports (g : Grammar) (cell : Structure) : List Event :=
  (g.rules.filter (·.fires cell)).map (.ruleFired cell) ++
    [.cellRealised cell (Item.spellOut (g.inserted cell))]

theorem realise_events (g : Grammar) (cell : Structure) :
    (g.realise cell).events = g.reports cell := by
  have hcell : Observer.silent.cell cell () = pure () := rfl
  have hcopied : Observer.silent.copied g.lexicon () = pure () := rfl
  have hgeneralised : ∀ items, Observer.silent.generalised items () = pure () := fun _ => rfl
  have hmatched : ∀ items, Observer.silent.matched items () = pure () := fun _ => rfl
  simp [realise, realiseWith, hcell, hcopied, hgeneralised, hmatched, applyRules_silent_events,
    applyRules_value, foldl_applyIn, reports, inserted, generalised]

/-! ## Paradigms -/

open Paradigm

variable (g : Grammar) (alignment : Alignment)

/-- The reports of the position of a subject and an object. -/
def pairReports (subject object : Argument) : List Event :=
  if subject.corefers object then []
  else g.reports ⟨[subject.bundle alignment.agent false, object.bundle alignment.patient false]⟩

/-- The reports of a row, position by position. -/
def rowReports (subject : Argument) : List (List Event) :=
  g.reports ⟨[subject.bundle alignment.sole true]⟩ ::
    g.objects.map (g.pairReports alignment subject)

theorem transitiveCell_events (subject object : Argument) :
    (g.transitiveCell alignment subject object).events =
      g.pairReports alignment subject object := by
  unfold transitiveCell pairReports
  split
  · rfl
  · simp only [Logged.events_bind, Logged.events_pure, realise_events, List.append_nil]

theorem row_events (subject : Argument) :
    (g.row alignment subject).events = (g.rowReports alignment subject).flatten := by
  simp only [row, objects, Logged.events_bind, Logged.events_pure, Logged.events_mapM,
    transitiveCell_events, intransitiveCell, realise_events, List.append_nil, rowReports,
    List.flatten_cons, List.flatMap_def]

theorem buildParadigm_events :
    (g.buildParadigm alignment).events =
      (g.arguments.flatMap (g.rowReports alignment)).flatten ++
        [.paradigmBuilt g.name alignment g.arguments.length
          (((g.cells alignment).rows.flatMap Row.cells).countP Cell.isGap)] := by
  have hrows : (g.arguments.flatMap (g.rowReports alignment)).flatten =
      g.arguments.flatMap fun subject => (g.rowReports alignment subject).flatten := by
    simp only [List.flatten_eq_flatMap, List.flatMap_assoc]
  rw [hrows]
  simp [buildParadigm_eq, paradigm, row_events, row_value, cells]

/-- What the log shows of a position: nothing, if it is excluded; else every rule whose context holds
of the cell that the cell string names, and then the forms. -/
def Shows : Cell → List Event.Entry → Prop
  | .excluded, entries => entries = []
  | .realised name items, entries =>
      ∃ cell, Structure.readCell alignment name = .ok cell ∧
        entries = (g.rules.filter fun r => cell.satisfies r.context).map (fun r =>
            ⟨.trace, "Rule fired", [("cell", .text cell.text), ("rule", .text r.text)]⟩) ++
          [⟨.trace, "Realised cell",
            [("cell", .text cell.text), ("forms", .text (Item.spellOut items))]⟩]

theorem shows_reports {name : String} {cell : Structure}
    (hcell : Structure.readCell alignment name = .ok cell) :
    g.Shows alignment (.realised name (g.inserted cell)) ((g.reports cell).map Event.entry) := by
  refine ⟨cell, hcell, ?_⟩
  rw [reports, List.map_append, List.map_map]
  rfl

theorem shows_pairCell (subject object : Argument) :
    g.Shows alignment (g.pairCell alignment subject object)
      ((g.pairReports alignment subject object).map Event.entry) := by
  unfold pairCell pairReports
  split
  · rfl
  · exact g.shows_reports alignment (Structure.readCell_texts alignment subject object)

theorem shows_cellRow (subject : Argument) :
    List.Forall₂ (g.Shows alignment) (g.cellRow alignment subject).cells
      ((g.rowReports alignment subject).map (List.map Event.entry)) := by
  refine .cons (g.shows_reports alignment (Structure.readCell_text alignment subject)) ?_
  rw [cellRow, List.forall₂_map_left_iff, List.forall₂_map_right_iff, List.forall₂_map_right_iff,
    List.forall₂_same]
  exact fun object _ => g.shows_pairCell alignment subject object

/-- The log of a paradigm that is built is told cell by cell in table order, the intransitive cell of
a row before its objects. A position that is not excluded shows the rules that fire in it, in their
order and each once, and then its forms; an excluded one shows nothing. The summary comes last and
counts the gaps. -/
theorem buildParadigm_reports_every_cell :
    ∃ p told, (g.buildParadigm alignment).value = .ok p ∧
      p.arguments = g.arguments ∧ p.rows.map Row.subject = p.arguments ∧
      (∀ row ∈ p.rows, p.cell? row.subject none = some row.intransitive ∧
        row.objects.map some = g.objects.map fun object => p.cell? row.subject (some object)) ∧
      List.Forall₂ (g.Shows alignment) (p.rows.flatMap Row.cells) told ∧
      (g.buildParadigm alignment).events.map Event.entry = told.flatten ++
        [⟨.info, "Built paradigm", [("language", .text g.name), ("alignment", .text alignment.text),
          ("arguments", .number p.arguments.length),
          ("gaps", .number ((p.rows.flatMap Row.cells).countP Cell.isGap))]⟩] := by
  refine ⟨g.cells alignment, (g.arguments.flatMap (g.rowReports alignment)).map
    (List.map Event.entry), g.buildParadigm_value alignment, rfl, ?_, ?_, ?_, ?_⟩
  · simp [cells, cellRow, Function.comp_def]
  · intro row hrow
    obtain ⟨subject, hsubject, rfl⟩ := List.mem_map.mp hrow
    refine ⟨(g.cell?_none alignment subject).trans (if_pos hsubject), ?_⟩
    rw [cellRow, List.map_map]
    refine List.map_congr_left fun object hobject => ?_
    obtain ⟨ht, hobject⟩ := g.mem_objects.mp hobject
    exact ((g.cell?_some alignment subject object).trans (if_pos ⟨ht, hsubject, hobject⟩)).symm
  · rw [cells, List.flatMap_map, List.map_flatMap]
    refine List.rel_flatMap (R := Eq) (List.forall₂_refl g.arguments) ?_
    rintro subject _ rfl
    exact g.shows_cellRow alignment subject
  · rw [buildParadigm_events, List.map_append, List.map_flatten]
    rfl

end Grammar

end Agreement
