import Agreement.Json.Basic
import Agreement.Grammar.Basic
import Agreement.Alignment

/-!
# Grammars as JSON

Features are strings, bundles and structures arrays, and items, rules and grammars objects with a
field for each of their parts.
-/

namespace Agreement.Json

def ofFeature (f : Feature) : Json :=
  .string f.text

/-- A bundle as JSON: the array of its features in printing order. -/
def ofBundle (b : Bundle) : Json :=
  .array (b.features.map ofFeature)

def ofStructure (s : Structure) : Json :=
  .array (s.bundles.map ofBundle)

def ofItem (i : Item) : Json :=
  .object [("form", .string i.form), ("meaning", ofStructure i.meaning)]

def ofRule (r : Rule) : Json :=
  .object [("delete", ofBundle r.deleted), ("context", ofStructure r.context)]

def ofGrammar (g : Grammar) : Json :=
  .object [("name", .string g.name), ("morphemes", .array (g.lexicon.map ofItem)),
    ("rules", .array (g.rules.map ofRule)), ("dual", .bool g.dual),
    ("inclusive", .bool g.inclusive), ("transitive", .bool g.transitive)]

def ofAlignment : Alignment → Json
  | .accusative => .string "accusative"
  | .ergative => .string "ergative"

end Agreement.Json
