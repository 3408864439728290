import Agreement.Grammar.Basic

/-!
# Lint

Deletions that cannot change anything in the lexicon of a grammar. They are allowed, since a
grammar may hold part of its rules on purpose.
-/

namespace Agreement.Grammar

/-- A deletion without effect; rules are counted from 0. -/
inductive Warning where
  /-- The rule deletes a feature that no vocabulary item has. -/
  | unusedDeletion (rule : Nat) (feature : Feature)
  /-- The rule deletes nothing. -/
  | emptyDeletion (rule : Nat)
deriving Repr, DecidableEq

/-- The warning for the user, who counts rules from 1. -/
def Warning.text : Warning → String
  | unusedDeletion rule feature =>
      "rule " ++ (rule + 1).repr ++ " deletes " ++ feature.text ++
        ", which no vocabulary item carries"
  | emptyDeletion rule => "rule " ++ (rule + 1).repr ++ " deletes no features"

/-- Whether some bundle of some vocabulary item has the feature. -/
def carries (g : Grammar) (f : Feature) : Bool :=
  g.lexicon.any fun i => i.meaning.bundles.any (·.contains f)

/-- The warnings about one rule, in the printing order of the features. -/
def lintRule (g : Grammar) (index : Nat) (r : Rule) : List Warning :=
  if r.deleted.isEmpty then [.emptyDeletion index]
  else (r.deleted.features.filter fun f => !g.carries f).map (.unusedDeletion index)

/-- The warnings about a grammar, in the order of the rules. -/
def lint (g : Grammar) : List Warning :=
  g.rules.zipIdx.flatMap fun (r, index) => g.lintRule index r

end Agreement.Grammar
