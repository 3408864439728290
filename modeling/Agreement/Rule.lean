import Agreement.Item

/-!
# Generalisation rules

A rule deletes features from every vocabulary item when the cell being realised satisfies its
context. Whether the context has to do with an item makes no difference to that item.
-/

namespace Agreement

/-- A deletion that depends on the cell. -/
structure Rule where
  deleted : Bundle
  context : Structure
deriving Repr, DecidableEq

namespace Rule

/-- Whether the rule applies in a cell. -/
def fires (r : Rule) (cell : Structure) : Bool :=
  cell.satisfies r.context

/-- The items without the deleted features. -/
def apply (r : Rule) (items : List Item) : List Item :=
  items.map (·.without r.deleted)

/-- A rule in notation, `deletion → ∅ / context`. -/
def text (r : Rule) : String :=
  r.deleted.text ++ " → ∅ / " ++ r.context.text

end Rule

end Agreement
