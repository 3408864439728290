import Agreement.Grammar.Basic

/-!
# Arguments

The persons and numbers that a language tells apart, and which two arguments of one verb would
refer to the same participant.
-/

namespace Agreement

inductive Person where
  | first
  /-- Speaker and addressee together. -/
  | inclusive
  | second
  | third
deriving Repr, DecidableEq

namespace Person

/-- The persons of a language, in table order. -/
def all (inclusive : Bool) : List Person :=
  if inclusive then [.first, .inclusive, .second, .third] else [.first, .second, .third]

/-- The person in a cell string. -/
def text : Person → String
  | first => "1"
  | inclusive => "1i"
  | second => "2"
  | third => "3"

/-- Whether the speaker is among those meant. -/
def includesSpeaker : Person → Bool
  | first | inclusive => true
  | second | third => false

/-- Whether the addressee is among those meant. -/
def includesAddressee : Person → Bool
  | inclusive | second => true
  | first | third => false

end Person

inductive Number where
  | singular
  | dual
  | plural
deriving Repr, DecidableEq

namespace Number

/-- The numbers of a language, in table order. -/
def all (dual : Bool) : List Number :=
  if dual then [.singular, .dual, .plural] else [.singular, .plural]

/-- The number in a cell string. -/
def text : Number → String
  | singular => "s"
  | dual => "d"
  | plural => "p"

end Number

structure Argument where
  person : Person
  number : Number
deriving Repr, DecidableEq

namespace Argument

/-- The argument in a cell string: `1s`, `1id`, `3p`. -/
def text (a : Argument) : String :=
  a.person.text ++ a.number.text

/-- The arguments of a language by person, then number. The inclusive has no singular. -/
def all (dual inclusive : Bool) : List Argument :=
  (Person.all inclusive).flatMap fun person =>
    ((Number.all dual).map (⟨person, ·⟩)).filter fun a =>
      !(a.person == .inclusive && a.number == .singular)

/-- Whether a subject and an object share the speaker or the addressee. -/
def corefers (subject object : Argument) : Bool :=
  (subject.person.includesSpeaker && object.person.includesSpeaker) ||
    (subject.person.includesAddressee && object.person.includesAddressee)

/-- The bundle of an argument in a given case, `sole` if the verb has no other argument. -/
def bundle (a : Argument) (label : Case) (sole : Bool) : Bundle where
  case := some label
  person1 := some (.ofBool a.person.includesSpeaker)
  person2 := some (.ofBool a.person.includesAddressee)
  person3 := some (.ofBool (a.person == .third))
  singular := some (.ofBool (a.number == .singular))
  plural := some (.ofBool (a.number == .plural))
  intransitive := if sole then some .plus else none

end Argument

/-- The arguments that a language tells apart. -/
def Grammar.arguments (g : Grammar) : List Argument :=
  Argument.all g.dual g.inclusive

end Agreement
