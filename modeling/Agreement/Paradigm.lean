import Agreement.Realisation
import Agreement.Argument
import Agreement.Table

/-!
# Paradigms

The paradigm of a grammar has a row for each subject. A row holds the intransitive cell and, if the
verb agrees with its object, a cell for each object. A cell whose arguments would share the speaker
or the addressee is excluded and not realised.

A paradigm is built in two phases: the cell strings of all positions are read, and what they name is
realised.
-/

namespace Agreement

namespace Paradigm

/-- A position of a paradigm. -/
inductive Cell where
  /-- Ruled out, since its arguments overlap. -/
  | excluded
  /-- Realised; a gap has no items. -/
  | realised (name : String) (items : List Item)
deriving Repr, DecidableEq

namespace Cell

/-- The forms of a realised cell, one after another. -/
def spellOut : Cell → Option String
  | excluded => none
  | realised _ items => some (Item.spellOut items)

/-- Whether the cell was realised without items. -/
def isGap : Cell → Bool
  | excluded => false
  | realised _ items => items.isEmpty

/-- What a table shows: nothing for an excluded cell, and `marker` where there are no forms to be
seen. -/
def shown (marker : String) (c : Cell) : String :=
  match c.spellOut with
  | none => ""
  | some forms => if forms.isEmpty then marker else forms

end Cell

structure Row where
  subject : Argument
  intransitive : Cell
  /-- One for each object, or none if the verb does not agree with its object. -/
  objects : List Cell
deriving Repr, DecidableEq

/-- The cells of a row in table order. -/
def Row.cells (r : Row) : List Cell :=
  r.intransitive :: r.objects

end Paradigm

structure Paradigm where
  arguments : List Argument
  transitive : Bool
  rows : List Paradigm.Row
deriving Repr, DecidableEq

/-! ## Building from cell strings -/

namespace Paradigm

/-- A cell to be realised, under its cell string. -/
structure PlannedCell where
  name : String
  cell : Structure
deriving Repr, DecidableEq

/-- A row to be realised. An object without a planned cell is excluded. -/
structure PlannedRow where
  subject : Argument
  intransitive : PlannedCell
  objects : List (Option PlannedCell)
deriving Repr, DecidableEq

/-- Plans a cell by reading its cell string. -/
def planCell (alignment : Alignment) (name : String) : Except InputError PlannedCell := do
  pure ⟨name, ← Structure.readCell alignment name⟩

/-- Plans the position of a subject and an object. -/
def planObject (alignment : Alignment) (subject object : Argument) :
    Except InputError (Option PlannedCell) :=
  if subject.corefers object then pure none
  else some <$> planCell alignment (subject.text ++ ">" ++ object.text)

end Paradigm

namespace Grammar

open Paradigm

/-- Plans the row of a subject, its objects first. -/
def planRow (g : Grammar) (alignment : Alignment) (subject : Argument) :
    Except InputError PlannedRow := do
  let objects := if g.transitive then g.arguments else []
  let objects ← objects.mapM (planObject alignment subject)
  let intransitive ← planCell alignment subject.text
  pure ⟨subject, intransitive, objects⟩

def plan (g : Grammar) (alignment : Alignment) : Except InputError (List PlannedRow) :=
  g.arguments.mapM (g.planRow alignment)

def realiseCell (g : Grammar) (planned : PlannedCell) : Logged Cell := do
  pure (.realised planned.name (← g.realise planned.cell))

def realiseObject (g : Grammar) : Option PlannedCell → Logged Cell
  | none => pure .excluded
  | some planned => g.realiseCell planned

def realiseRow (g : Grammar) (planned : PlannedRow) : Logged Row := do
  let intransitive ← g.realiseCell planned.intransitive
  pure ⟨planned.subject, intransitive, ← planned.objects.mapM g.realiseObject⟩

/-- Builds the paradigm of a grammar. Nothing is realised unless every cell string reads. -/
def buildParadigm (g : Grammar) (alignment : Alignment) : Logged (Except InputError Paradigm) :=
  match g.plan alignment with
  | .error e => pure (.error e)
  | .ok planned => do
      let rows ← planned.mapM g.realiseRow
      let gaps := (rows.flatMap Row.cells).countP Cell.isGap
      Logged.report (.paradigmBuilt g.name alignment g.arguments.length gaps)
      pure (.ok { arguments := g.arguments, transitive := g.transitive, rows })

end Grammar

/-! ## Looking up and laying out -/

namespace Paradigm

/-- The cell of a subject and an object, the intransitive one if there is no object. -/
def cell? (p : Paradigm) (subject : Argument) (object : Option Argument) : Option Cell := do
  let row ← p.rows.find? (·.subject == subject)
  match object with
  | none => pure row.intransitive
  | some object => row.objects[← p.arguments.findIdx? (· == object)]?

/-- The paradigm as a table, with `marker` in the cells that show no form. -/
def table (p : Paradigm) (marker : String) : Table where
  header := "" :: "intr" :: (if p.transitive then p.arguments.map Argument.text else [])
  rows := p.rows.map fun r => r.subject.text :: r.cells.map (Cell.shown marker)

end Paradigm

/-- The drawn paradigm of a grammar, with blank gaps. -/
def Grammar.draw (g : Grammar) (alignment : Alignment) : Logged (Except InputError String) := do
  pure ((← g.buildParadigm alignment).map fun p => (p.table "").render)

end Agreement
