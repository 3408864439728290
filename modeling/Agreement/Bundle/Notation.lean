import Agreement.Bundle.Basic
import Agreement.Text.Blank

/-!
# Bundle notation

A bundle is written as its features between brackets, `[Nom +1 -pl]`. Reading allows white space
around the brackets and more of it between the features, which may come in any order.
-/

namespace Agreement

open Text

/-- What stands between an opening bracket at the start and a closing one at the end. -/
def bracketed? : List Char → Option (List Char)
  | '[' :: s => if s.getLast? = some ']' then some s.dropLast else none
  | _ => none

namespace Bundle

def text (b : Bundle) : String :=
  "[" ++ " ".intercalate (b.features.map Feature.text) ++ "]"

/-- Reads a bundle: its brackets, then every feature, then whether a slot is filled twice. -/
def readChars (s : List Char) : Except InputError Bundle :=
  match bracketed? (trim s) with
  | some inner =>
      if inner.any fun c => c = '[' ∨ c = ']' then
        .error (.malformedStructure (String.ofList s))
      else
        (words inner).mapM (fun w => Feature.read (String.ofList w)) >>= ofFeatures
  | none => .error (.malformedStructure (String.ofList s))

def read (s : String) : Except InputError Bundle :=
  readChars s.toList

end Bundle

end Agreement
