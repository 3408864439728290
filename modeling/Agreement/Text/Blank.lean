import Agreement.Text.CodePoints

/-!
# White space

The white space of the notations, trimming, and the words between runs of it.
-/

namespace Agreement.Text

/-- The twenty-five characters with the property `White_Space`. -/
def whiteSpace : CodePoints := [
  (0x9, 0xD), (0x20, 0x20), (0x85, 0x85), (0xA0, 0xA0), (0x1680, 0x1680), (0x2000, 0x200A),
  (0x2028, 0x2029), (0x202F, 0x202F), (0x205F, 0x205F), (0x3000, 0x3000)]

/-- White space, which the notations allow between their parts. -/
def isBlank (c : Char) : Bool :=
  whiteSpace.has c

/-- The text from its first character that is not white space. -/
def trimStart (s : List Char) : List Char :=
  s.dropWhile isBlank

/-- The text up to its last character that is not white space. -/
def trimEnd (s : List Char) : List Char :=
  (s.reverse.dropWhile isBlank).reverse

/-- The text without the white space around it. -/
def trim (s : List Char) : List Char :=
  trimEnd (trimStart s)

/-- The maximal runs of characters that are not white space, in order. -/
def words : List Char → List (List Char)
  | [] => []
  | [c] => if isBlank c then [] else [[c]]
  | c :: d :: s =>
      if isBlank c then words (d :: s)
      else if isBlank d then [c] :: words (d :: s)
      else match words (d :: s) with
        | [] => [[c]]
        | w :: ws => (c :: w) :: ws

end Agreement.Text
