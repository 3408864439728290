import Agreement.Log
import Agreement.Structure.CellString

/-!
# Realisation

A cell is realised in four stages: the lexicon is copied, each rule in turn that the cell satisfies
deletes its features from every item of the copy, and the items whose remaining meaning the cell
satisfies are inserted. An observer follows the stages; it has a state of its own and cannot touch
the items.
-/

namespace Agreement

/-- What is told about a realisation, and when. Callbacks that are not given do nothing. -/
structure Observer (σ : Type) where
  /-- The cell about to be realised. -/
  cell : Structure → σ → Logged σ := fun _ s => pure s
  /-- The copy of the lexicon, before any rule. -/
  copied : List Item → σ → Logged σ := fun _ s => pure s
  /-- The rule of this index was tested. -/
  rule : Nat → Rule → Bool → σ → Logged σ := fun _ _ _ s => pure s
  /-- The items after all rules. -/
  generalised : List Item → σ → Logged σ := fun _ s => pure s
  /-- The items to insert, in the order of the lexicon. -/
  matched : List Item → σ → Logged σ := fun _ s => pure s

namespace Observer

def silent : Observer Unit := {}

/-- Watches through a part of a larger state. -/
def through {σ τ : Type} (get : τ → σ) (set : σ → τ → τ) (o : Observer σ) : Observer τ where
  cell c t := do pure (set (← o.cell c (get t)) t)
  copied items t := do pure (set (← o.copied items (get t)) t)
  rule index r fired t := do pure (set (← o.rule index r fired (get t)) t)
  generalised items t := do pure (set (← o.generalised items (get t)) t)
  matched items t := do pure (set (← o.matched items (get t)) t)

/-- Two observers with a common state see every stage, `a` first. -/
def andThen {σ : Type} (a b : Observer σ) : Observer σ where
  cell c s := do b.cell c (← a.cell c s)
  copied items s := do b.copied items (← a.copied items s)
  rule index r fired s := do b.rule index r fired (← a.rule index r fired s)
  generalised items s := do b.generalised items (← a.generalised items s)
  matched items s := do b.matched items (← a.matched items s)

/-- Two observers with states of their own see every stage, `a` first. -/
def both {σ τ : Type} (a : Observer σ) (b : Observer τ) : Observer (σ × τ) :=
  (a.through Prod.fst fun s p => (s, p.2)).andThen (b.through Prod.snd fun t p => (p.1, t))

/-- Reports every stage to the log. -/
def logging : Observer Unit where
  cell c _ := .report (.cellStarted c)
  copied items _ := .report (.lexiconCopied items.length)
  rule index r fired _ := .report (.ruleTested index r fired)
  generalised items _ := .reportAll (items.map .itemGeneralised)
  matched items _ := .report (.itemsFound (Item.spellOut items) items.length)

end Observer

/-- Tests the rules from number `index` on against the cell, and applies those that fire. -/
def applyRules {σ : Type} (o : Observer σ) (cell : Structure) (index : Nat) :
    List Rule → List Item → σ → Logged (List Item × σ)
  | [], items, s => pure (items, s)
  | r :: rules, items, s => do
      if r.fires cell then
        Logged.report (.ruleFired cell r)
        applyRules o cell (index + 1) rules (r.apply items) (← o.rule index r true s)
      else
        applyRules o cell (index + 1) rules items (← o.rule index r false s)

namespace Grammar

/-- The items inserted into a cell, in the order of the lexicon, under the eyes of an observer. No
items at all are a gap of the paradigm. -/
def realiseWith {σ : Type} (g : Grammar) (cell : Structure) (o : Observer σ) (s : σ) :
    Logged (List Item × σ) := do
  let s ← o.cell cell s
  let s ← o.copied g.lexicon s
  let (items, s) ← applyRules o cell 0 g.rules g.lexicon s
  let s ← o.generalised items s
  let found := items.filter fun i => cell.satisfies i.meaning
  let s ← o.matched found s
  Logged.report (.cellRealised cell (Item.spellOut found))
  pure (found, s)

def realise (g : Grammar) (cell : Structure) : Logged (List Item) := do
  pure (← g.realiseWith cell .silent ()).1

/-- Reads a cell string and realises the cell. A cell that does not read is not observed. -/
def derive {σ : Type} (g : Grammar) (alignment : Alignment) (cell : String) (o : Observer σ)
    (s : σ) : Logged (Except InputError (List Item) × σ) :=
  match Structure.readCell alignment cell with
  | .error e => pure (.error e, s)
  | .ok cell => do
      let (items, s) ← g.realiseWith cell o s
      pure (.ok items, s)

end Grammar

end Agreement
