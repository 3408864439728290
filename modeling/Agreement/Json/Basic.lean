import Agreement.Decimal
import Agreement.Text.Quoted

/-!
# JSON values

JSON values in memory. An object is a list of named fields; where a name occurs more than once, the
first field counts.
-/

namespace Agreement

inductive Json.Number where
  /-- A whole number of at most 64 bits. -/
  | integer (value : Int)
  /-- Any other number, which stands for a binary floating point number. -/
  | decimal (value : Decimal)
deriving Repr, DecidableEq

inductive Json where
  | null
  | bool (value : Bool)
  | number (value : Json.Number)
  | string (value : String)
  | array (values : List Json)
  | object (fields : List (String × Json))
deriving Repr

namespace Json

/-- The numeral `± digits × 10 ^ exponent`, written with a point or an exponent if `fraction`. A
numeral without either is an integer if 64 bits hold it, but negative zero is not. -/
def Number.ofNumeral (x : Decimal) (fraction : Bool) : Number :=
  if fraction || (x.negative && x.digits == 0) || (x.negative && x.digits > Nat.pow 2 63) ||
      x.digits ≥ Nat.pow 2 64 then
    .decimal x
  else .integer (if x.negative then -x.digits else x.digits)

/-- What kind of value was met, as messages put it. -/
def kind : Json → String
  | null => "null"
  | bool value => "boolean `" ++ (if value then "true" else "false") ++ "`"
  | number (.integer value) => "integer `" ++ value.repr ++ "`"
  | number (.decimal value) => "floating point `" ++ value.text ++ "`"
  | string value => "string " ++ Text.quoted value
  | array _ => "sequence"
  | object _ => "map"

end Json

end Agreement
