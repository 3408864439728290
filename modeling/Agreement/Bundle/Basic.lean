import Agreement.Feature

/-!
# Feature bundles

A bundle has a slot for the case and one for each attribute, and each slot holds at most one value.
It is read as the set of its features.
-/

namespace Agreement

/-- A set of features with at most one value for each slot. -/
structure Bundle where
  case : Option Case := none
  person1 : Option Sign := none
  person2 : Option Sign := none
  person3 : Option Sign := none
  singular : Option Sign := none
  plural : Option Sign := none
  intransitive : Option Sign := none
deriving Repr, DecidableEq

namespace Bundle

def empty : Bundle := {}

/-- The sign of an attribute, if the bundle has one. -/
def sign (b : Bundle) : Attribute → Option Sign
  | .person1 => b.person1
  | .person2 => b.person2
  | .person3 => b.person3
  | .singular => b.singular
  | .plural => b.plural
  | .intransitive => b.intransitive

/-- The bundle with one attribute set to `value`. -/
def setSign (b : Bundle) (value : Option Sign) : Attribute → Bundle
  | .person1 => { b with person1 := value }
  | .person2 => { b with person2 := value }
  | .person3 => { b with person3 := value }
  | .singular => { b with singular := value }
  | .plural => { b with plural := value }
  | .intransitive => { b with intransitive := value }

/-- The bundle with a feature put into its slot, in place of what the slot held. -/
def insert (b : Bundle) : Feature → Bundle
  | .case c => { b with case := some c }
  | .signed a s => b.setSign (some s) a

/-- The bundle of the listed features, of which a later one replaces an earlier one in its slot. -/
def of (fs : List Feature) : Bundle :=
  fs.foldl insert empty

/-- Whether the bundle holds exactly this feature. -/
def contains (b : Bundle) : Feature → Bool
  | .case c => b.case == some c
  | .signed a s => b.sign a == some s

/-- Whether the slot of the feature is filled, with whatever value. -/
def occupies (b : Bundle) : Feature → Bool
  | .case _ => b.case.isSome
  | .signed a _ => (b.sign a).isSome

/-- The features of a bundle in printing order: the case first, then the attributes. -/
def features (b : Bundle) : List Feature :=
  (b.case.map .case).toList ++
    Attribute.all.filterMap fun a => (b.sign a).map (.signed a)

def size (b : Bundle) : Nat :=
  b.features.length

def isEmpty (b : Bundle) : Bool :=
  b.case.isNone && Attribute.all.all fun a => (b.sign a).isNone

/-- Whether every feature of `b` is in `c`. -/
def within (b c : Bundle) : Bool :=
  b.features.all c.contains

/-- The bundle with the slot of a feature emptied, if it holds exactly this feature. -/
def erase (b : Bundle) (f : Feature) : Bundle :=
  if b.contains f then
    match f with
    | .case _ => { b with case := none }
    | .signed a _ => b.setSign none a
  else b

/-- The bundle without the features of `deleted`; the opposite sign of a deleted one stays. -/
def without (b deleted : Bundle) : Bundle :=
  deleted.features.foldl erase b

/-- Puts features into free slots one after another; none if a slot is filled twice. -/
def addAll (b : Bundle) : List Feature → Option Bundle
  | [] => some b
  | f :: fs => if b.occupies f then none else (b.insert f).addAll fs

def ofList? (fs : List Feature) : Option Bundle :=
  empty.addAll fs

/-- The bundle of the listed features, of which no two may fill one slot. -/
def ofFeatures (fs : List Feature) : Except InputError Bundle :=
  match ofList? fs with
  | some b => .ok b
  | none => .error (.duplicateAttribute (" ".intercalate (fs.map Feature.text)))

end Bundle

end Agreement
