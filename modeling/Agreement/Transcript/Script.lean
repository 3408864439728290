import Agreement.Realisation

/-!
# Scripts

The account of a realisation as a list of actions: texts to write, and a pause after the cell, the
copied lexicon, the items after all rules and the items to insert.
-/

namespace Agreement

/-- Something to do at a device. -/
inductive Action where
  | write (text : String)
  /-- Lets the reader catch up: what was written is flushed and, if there is someone to wait for,
  a line is read. -/
  | pause
deriving Repr, DecidableEq

namespace Script

/-- The label of a list entry: letters, and plain numbers after `z`. -/
def label (index : Nat) : String :=
  if index < 26 then (Char.ofNat ('a'.toNat + index)).toString else (index + 1).repr

def line (text : String) : Action :=
  .write (text ++ "\n")

def entry (index : Nat) (text : String) : Action :=
  line ("    " ++ label index ++ ". " ++ text)

def list (items : List Item) : List Action :=
  items.mapIdx fun index i => entry index i.text

/-- The heading of the rules, unless it was written already. -/
def heading (announced : Bool) : List Action :=
  if announced then [] else [line " 2. Applying rules"]

/-- What is written at the start of a cell. -/
def cell (c : Structure) : List Action :=
  [line ("Paradigm cell: " ++ c.text), .pause]

/-- What is written of the copied lexicon. -/
def copied (items : List Item) : List Action :=
  line " 1. Creating copy of the morpheme list" :: list items ++ [.pause]

/-- What is written of one rule. -/
def rule (announced : Bool) (index : Nat) (r : Rule) (fired : Bool) : List Action :=
  heading announced ++
    [entry index (r.text ++ "  (" ++ (if fired then "applies" else "does not apply") ++ ")")]

/-- What is written of the items after all rules. -/
def generalised (announced : Bool) (items : List Item) : List Action :=
  heading announced ++ line "" :: line "    new VI list" :: list items ++ [.pause]

/-- What is written of the items to insert. -/
def matched (items : List Item) : List Action :=
  line " 3. Finding Vocabulary Items" :: list items ++ [.pause]

end Script

end Agreement
