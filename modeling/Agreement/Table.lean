/-!
# Plain text tables

A header and rows of cells, set between two borders. Cells stand flush left two spaces apart, each
column is as wide as its widest cell, and every line begins and ends with two spaces.
-/

namespace Agreement

structure Table where
  header : List String
  rows : List (List String) := []
deriving Repr, DecidableEq

namespace Table

def push (t : Table) (row : List String) : Table :=
  { t with rows := t.rows ++ [row] }

def lines (t : Table) : List (List String) :=
  t.header :: t.rows

/-- The widths of the columns after one more line. A cell beyond the last column gets a column of
its own, and a cell that is longer than its column is wide widens it. -/
def widen : List Nat → List String → List Nat
  | widths, [] => widths
  | [], cell :: line => cell.length :: widen [] line
  | width :: widths, cell :: line => max width cell.length :: widen widths line

/-- The widths of the columns after all lines. -/
def widths (t : Table) : List Nat :=
  t.lines.foldl widen (List.replicate t.header.length 0)

def pad (width : Nat) (s : String) : String :=
  s ++ "".pushn ' ' (width - s.length)

/-- A line of cells in columns of the given widths. -/
def renderLine (widths : List Nat) (line : List String) : String :=
  let cells := widths.mapIdx fun column width => pad width (line.getD column "")
  "  " ++ "  ".intercalate cells ++ "  "

def rule (c : Char) (length : Nat) : String :=
  "".pushn c length

/-- The drawn table, without a line break at its end. Only two rows or more are divided from the
header. -/
def render (t : Table) : String :=
  let head := renderLine t.widths t.header
  let border := rule '=' head.length
  let divider := if t.rows.length > 1 then [rule '-' head.length] else []
  "\n".intercalate ([border, head] ++ divider ++ t.rows.map (renderLine t.widths) ++ [border])

end Table

end Agreement
