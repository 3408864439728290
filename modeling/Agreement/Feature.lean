import Agreement.InputError

/-!
# Features

A feature is a case label or a signed value of a binary attribute. There are sixteen of them, and
each is read from exactly the text that it prints.
-/

namespace Agreement

/-- The grammatical case of an argument. -/
inductive Case where
  | nominative
  | accusative
  | ergative
  | absolutive
deriving Repr, DecidableEq

namespace Case

def all : List Case := [nominative, accusative, ergative, absolutive]

/-- The abbreviation that stands for a case in feature notation. -/
def label : Case → String
  | nominative => "Nom"
  | accusative => "Acc"
  | ergative => "Erg"
  | absolutive => "Abs"

end Case

/-- A binary attribute of an argument. The first three hold of arguments that include the speaker,
the addressee and others; a dual argument is neither singular nor plural. -/
inductive Attribute where
  | person1
  | person2
  | person3
  | singular
  | plural
  | intransitive
deriving Repr, DecidableEq

namespace Attribute

/-- All attributes, in printing order. -/
def all : List Attribute := [person1, person2, person3, singular, plural, intransitive]

/-- What follows the sign in feature notation. -/
def suffix : Attribute → String
  | person1 => "1"
  | person2 => "2"
  | person3 => "3"
  | singular => "sg"
  | plural => "pl"
  | intransitive => "intr"

end Attribute

/-- The value of a binary attribute. -/
inductive Sign where
  | plus
  | minus
deriving Repr, DecidableEq

namespace Sign

def all : List Sign := [plus, minus]

/-- `+` where the attribute holds. -/
def ofBool (holds : Bool) : Sign :=
  if holds then plus else minus

/-- The sign in feature notation. -/
def text : Sign → String
  | plus => "+"
  | minus => "-"

end Sign

inductive Feature where
  | case (label : Case)
  | signed (of : Attribute) (sign : Sign)
deriving Repr, DecidableEq

namespace Feature

/-- The feature that an attribute holds. -/
def plus (a : Attribute) : Feature :=
  .signed a .plus

/-- The feature that an attribute does not hold. -/
def minus (a : Attribute) : Feature :=
  .signed a .minus

/-- All features, cases first. -/
def all : List Feature :=
  Case.all.map .case ++ Attribute.all.flatMap fun a => Sign.all.map (.signed a)

/-- A feature in notation: `Nom`, `+1`, `-pl`. -/
def text : Feature → String
  | case label => label.label
  | signed a sign => sign.text ++ a.suffix

/-- The feature with the given text. -/
def ofText? (s : String) : Option Feature :=
  all.find? fun f => f.text == s

/-- Reads a feature, which has no spelling but its text. -/
def read (s : String) : Except InputError Feature :=
  match ofText? s with
  | some f => .ok f
  | none => .error (.unknownFeature s)

end Feature

end Agreement
