import Agreement.Text.Quoted

/-!
# What can be wrong with an input

The causes for which feature notation, a cell string or a language key is refused, and the message
of each. A message shows the offending text in quotes.
-/

namespace Agreement

open Text

/-- Why an input was refused. -/
inductive InputError where
  /-- An argument holds a character outside `1 2 3 i s d p`; the first one is named. -/
  | invalidToken (token : String) (found : Char)
  /-- A side of a cell string is empty. -/
  | emptyArgument (cell : String)
  /-- A cell string has a second `>`. -/
  | ambiguousDelimiter (cell : String)
  /-- A text names no feature. -/
  | unknownFeature (feature : String)
  /-- Two of the listed features fill one slot. -/
  | duplicateAttribute (features : String)
  /-- The brackets of a notation do not fit. -/
  | malformedStructure (text : String)
  /-- No language of the catalogue has this key. -/
  | unknownLanguage (key : String)
deriving Repr, DecidableEq

def InputError.message : InputError → String
  | invalidToken token found =>
      "Invalid person/number token " ++ quoted token ++ ": unexpected " ++ quotedChar found
  | emptyArgument cell => "Empty argument in cell " ++ quoted cell
  | ambiguousDelimiter cell => "Cell " ++ quoted cell ++ " has more than one '>' delimiter"
  | unknownFeature feature => "Unknown feature " ++ quoted feature
  | duplicateAttribute features => "Bundle " ++ quoted features ++ " repeats an attribute"
  | malformedStructure text => "Malformed feature structure " ++ quoted text
  | unknownLanguage key => "Unknown language " ++ quoted key

end Agreement
