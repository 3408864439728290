import Agreement.Structure.Basic
import Agreement.Alignment
import Agreement.Text.LowerCase

/-!
# Cell strings

A cell of a paradigm is named by its arguments: `1di` is the sole argument of an intransitive verb,
`1s>3p` an agent and a patient. An argument is a word over `1 2 3 i s d p`, in any order and case:
its person is the union of those named, and it is dual where it is neither `s` nor `p`.
-/

namespace Agreement

open Text

/-- The characters of an argument. -/
def argumentAlphabet : List Char := ['1', '2', '3', 'i', 's', 'd', 'p']

namespace Bundle

/-- The bundle of an argument written in lower case. -/
def ofLetters (label : Case) (sole : Bool) (letters : List Char) : Bundle where
  case := some label
  person1 := some (.ofBool (letters.contains '1'))
  person2 := some (.ofBool (letters.contains '2' || letters.contains 'i'))
  person3 := some (.ofBool (letters.contains '3'))
  singular := some (.ofBool (letters.contains 's'))
  plural := some (.ofBool (letters.contains 'p'))
  intransitive := if sole then some .plus else none

/-- Reads one argument. A character outside the alphabet is reported before the lack of any. -/
def readArgument (label : Case) (sole : Bool) (token : List Char) : Except InputError Bundle :=
  let letters := lower token
  match letters.find? (!argumentAlphabet.contains ·) with
  | some found => .error (.invalidToken (String.ofList letters) found)
  | none =>
      if letters.isEmpty then .error (.emptyArgument "")
      else .ok (ofLetters label sole letters)

end Bundle

namespace Structure

/-- Reads one side of a cell string; `cell` is all of it. -/
def readSide (cell : String) (label : Case) (sole : Bool) (side : List Char) :
    Except InputError Bundle :=
  if side.isEmpty then .error (.emptyArgument cell) else Bundle.readArgument label sole side

/-- Reads a cell string. No arguments at all give the structure without bundles, and a second `>`
is refused before either side is read. -/
def readCell (alignment : Alignment) (cell : String) : Except InputError Structure :=
  let chars := cell.toList
  if chars.isEmpty then .ok empty
  else
    match chars.span (· != '>') with
    | (sole, []) => do
        pure ⟨[← readSide cell alignment.sole true sole]⟩
    | (agent, _ :: patient) =>
        if patient.contains '>' then .error (.ambiguousDelimiter cell)
        else do
          let agent ← readSide cell alignment.agent false agent
          let patient ← readSide cell alignment.patient false patient
          pure ⟨[agent, patient]⟩

end Structure

end Agreement
