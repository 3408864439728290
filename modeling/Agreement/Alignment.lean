import Agreement.Feature

/-!
# Alignment

Which case each role of a clause takes.
-/

namespace Agreement

/-- How the cases are shared out among the roles of a clause. -/
inductive Alignment where
  /-- Sole arguments and agents alike, patients apart. -/
  | accusative
  /-- Sole arguments and patients alike, agents apart. -/
  | ergative
deriving Repr, DecidableEq

namespace Alignment

def ofErgative (ergative : Bool) : Alignment :=
  if ergative then .ergative else .accusative

/-- The case of the sole argument of an intransitive verb. -/
def sole : Alignment → Case
  | accusative => .nominative
  | ergative => .absolutive

/-- The case of the agent of a transitive verb. -/
def agent : Alignment → Case
  | accusative => .nominative
  | ergative => .ergative

/-- The case of the patient of a transitive verb. -/
def patient : Alignment → Case
  | accusative => .accusative
  | ergative => .absolutive

def text : Alignment → String
  | accusative => "nominative-accusative"
  | ergative => "ergative-absolutive"

end Alignment

end Agreement
