import Agreement.Structure.Notation

/-!
# Vocabulary items

A vocabulary item pairs a form with its meaning, the condition under which the form may be inserted
into a cell.
-/

namespace Agreement

/-- A form and the condition for its insertion. -/
structure Item where
  form : String
  meaning : Structure
deriving Repr, DecidableEq

namespace Item

/-- The item with the features of `deleted` removed from its meaning. -/
def without (i : Item) (deleted : Bundle) : Item :=
  { i with meaning := i.meaning.without deleted }

/-- An item in notation, `/form/: meaning`. -/
def text (i : Item) : String :=
  "/" ++ i.form ++ "/: " ++ i.meaning.text

/-- The forms of the items, one after another. -/
def spellOut (items : List Item) : String :=
  String.join (items.map Item.form)

end Item

end Agreement
