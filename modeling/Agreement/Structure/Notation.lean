import Agreement.Structure.Basic
import Agreement.Bundle.Notation

/-!
# Structure notation

A structure is written as its bundles between brackets, `[[Nom +1] [Acc +3]]`, and `[]` when it has
none. Reading allows white space around every bracket. What ends at a closing bracket is read as a
bundle before anything after it is looked at.
-/

namespace Agreement.Structure

open Text

def text (s : Structure) : String :=
  "[" ++ " ".intercalate (s.bundles.map Bundle.text) ++ "]"

/-- The pieces of a text up to and with each closing bracket, and what follows the last one. -/
def pieces : List Char → List (List Char) × List Char
  | [] => ([], [])
  | c :: s =>
      match pieces s with
      | (ps, rest) =>
          if c = ']' then ([c] :: ps, rest)
          else match ps with
            | [] => ([], c :: rest)
            | p :: ps => ((c :: p) :: ps, rest)

/-- Reads a piece that ends at a closing bracket; `whole` is the text it comes from. -/
def readPiece (whole piece : List Char) : Except InputError Bundle :=
  if (trimStart piece).head? = some '[' then Bundle.readChars (trimStart piece)
  else .error (.malformedStructure (String.ofList whole))

def readChars (s : List Char) : Except InputError Structure :=
  match bracketed? (trim s) with
  | none => .error (.malformedStructure (String.ofList s))
  | some inner => do
      let bundles ← (pieces inner).1.mapM (readPiece s)
      if (pieces inner).2.all isBlank then pure ⟨bundles⟩
      else throw (.malformedStructure (String.ofList s))

def read (s : String) : Except InputError Structure :=
  readChars s.toList

end Agreement.Structure
