import Agreement.Bundle.Basic

/-!
# Feature structures

A structure is a list of bundles. As a paradigm cell it has one bundle for each argument; as a
condition, the meaning of a vocabulary item or the context of a rule, it asks for each of its
bundles to be part of some bundle of the cell.
-/

namespace Agreement

structure Structure where
  bundles : List Bundle := []
deriving Repr, DecidableEq

namespace Structure

def empty : Structure := {}

def size (s : Structure) : Nat :=
  s.bundles.length

def isEmpty (s : Structure) : Bool :=
  s.bundles.isEmpty

def push (s : Structure) (b : Bundle) : Structure :=
  ⟨s.bundles ++ [b]⟩

/-- The structure with the features of `deleted` removed from every bundle. -/
def without (s : Structure) (deleted : Bundle) : Structure :=
  ⟨s.bundles.map (·.without deleted)⟩

/-- Whether each bundle of the condition is within some bundle of the cell. Bundles are not paired
by position, and a condition without bundles holds of every cell. -/
def satisfies (cell condition : Structure) : Bool :=
  condition.bundles.all fun wanted => cell.bundles.any fun given => wanted.within given

end Structure

end Agreement
