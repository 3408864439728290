import Agreement.Rule

/-!
# Grammars

The agreement grammar of one language: its lexicon, its rules, and the switches that say which
arguments the language tells apart.
-/

namespace Agreement

/-- The agreement grammar of a language. -/
structure Grammar where
  name : String
  /-- The vocabulary items, in the order in which their forms are put together. -/
  lexicon : List Item := []
  /-- The generalisation rules, in the order of their application. -/
  rules : List Rule := []
  /-- Whether the language has a dual. -/
  dual : Bool := false
  /-- Whether the language has a first person inclusive. -/
  inclusive : Bool := false
  /-- Whether the verb agrees with its object as well. -/
  transitive : Bool := false
deriving Repr, DecidableEq

namespace Grammar

/-- The grammar with more rules after its own. -/
def extend (g : Grammar) (rules : List Rule) : Grammar :=
  { g with rules := g.rules ++ rules }

end Grammar

end Agreement
