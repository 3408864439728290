import Agreement.Text.CaseTable

/-!
# Lower case

The lower-case form of a text, with the two mappings that one character alone does not settle: the
dotted capital I becomes two characters, and a capital sigma at the end of a word becomes `ς`.
-/

namespace Agreement.Text

/-- The lower-case form of one character where it is a single character. -/
def lowerChar (c : Char) : Char :=
  match caseRuns.find? (·.has c.toNat) with
  | some r => Char.ofNat (c.toNat + r.offset).toNat
  | none => c

/-- Whether the next character that counts is cased. -/
def casedNext (s : List Char) : Bool :=
  match s.dropWhile caseIgnorable.has with
  | [] => false
  | c :: _ => cased.has c

/-- Lowers a text; `before` holds the characters already passed, the nearest first. -/
def lowerAfter (before : List Char) : List Char → List Char
  | [] => []
  | c :: s =>
      let low :=
        if c = 'İ' then ['i', '\u0307']
        else if c = 'Σ' then [if casedNext before && !casedNext s then 'ς' else 'σ']
        else [lowerChar c]
      low ++ lowerAfter (c :: before) s

def lower (s : List Char) : List Char :=
  lowerAfter [] s

end Agreement.Text
