import Agreement.Alignment
import Agreement.Grammar.Lint

/-!
# The log

What happens while grammars are built and cells realised is reported as events. A computation that
reports is a value together with its events in order, so the order is part of the result.
-/

namespace Agreement

inductive Level where
  | error
  | warn
  | info
  | debug
  | trace
deriving Repr, DecidableEq

namespace Level

def text : Level → String
  | error => "ERROR"
  | warn => "WARN"
  | info => "INFO"
  | debug => "DEBUG"
  | trace => "TRACE"

/-- Levels counted from the most severe. -/
def rank : Level → Nat
  | error => 0
  | warn => 1
  | info => 2
  | debug => 3
  | trace => 4

end Level

inductive Event where
  /-- A deletion of a finished grammar has no effect. -/
  | lint (language : String) (warning : Grammar.Warning)
  | grammarBuilt (language : String) (morphemes rules : Nat)
  | ruleFired (cell : Structure) (rule : Rule)
  /-- A cell has its forms. -/
  | cellRealised (cell : Structure) (forms : String)
  /-- All cells of a paradigm have their forms. -/
  | paradigmBuilt (language : String) (alignment : Alignment) (arguments gaps : Nat)
  | cellStarted (cell : Structure)
  | lexiconCopied (count : Nat)
  | ruleTested (index : Nat) (rule : Rule) (fired : Bool)
  /-- An item as the rules leave it. -/
  | itemGeneralised (item : Item)
  | itemsFound (forms : String) (count : Nat)
  /-- A cell asked for on the command line has its forms. -/
  | cellDerived (language cell forms : String)
deriving Repr, DecidableEq

namespace Event

inductive Value where
  | text (text : String)
  | number (number : Nat)
  | flag (flag : Bool)
deriving Repr, DecidableEq

def level : Event → Level
  | lint .. => .warn
  | paradigmBuilt .. | cellDerived .. => .info
  | ruleFired .. | cellRealised .. => .trace
  | _ => .debug

def message : Event → String
  | lint _ warning => warning.text
  | grammarBuilt .. => "Built language profile"
  | ruleFired .. => "Rule fired"
  | cellRealised .. => "Realised cell"
  | paradigmBuilt .. => "Built paradigm"
  | cellStarted .. => "Realising paradigm cell"
  | lexiconCopied .. => "Copied morpheme list"
  | ruleTested .. => "Tested generalisation rule"
  | itemGeneralised .. => "Generalised vocabulary item"
  | itemsFound .. => "Found vocabulary items"
  | cellDerived .. => "Derived cell"

def fields : Event → List (String × Value)
  | lint language _ => [("language", .text language)]
  | grammarBuilt language morphemes rules =>
      [("language", .text language), ("morphemes", .number morphemes), ("rules", .number rules)]
  | ruleFired cell rule => [("cell", .text cell.text), ("rule", .text rule.text)]
  | cellRealised cell forms => [("cell", .text cell.text), ("forms", .text forms)]
  | paradigmBuilt language alignment arguments gaps =>
      [("language", .text language), ("alignment", .text alignment.text),
        ("arguments", .number arguments), ("gaps", .number gaps)]
  | cellStarted cell => [("cell", .text cell.text)]
  | lexiconCopied count => [("count", .number count)]
  | ruleTested index rule fired =>
      [("index", .number index), ("rule", .text rule.text), ("fired", .flag fired)]
  | itemGeneralised item => [("item", .text item.text)]
  | itemsFound forms count => [("forms", .text forms), ("count", .number count)]
  | cellDerived language cell forms =>
      [("language", .text language), ("cell", .text cell), ("forms", .text forms)]

/-- The events at a level or more severe. -/
def atLevel (level : Level) (events : List Event) : List Event :=
  events.filter fun e => e.level.rank ≤ level.rank

end Event

/-- A value and the events reported on the way to it. -/
structure Logged (α : Type) where
  value : α
  events : List Event := []

namespace Logged

instance : Monad Logged where
  pure a := ⟨a, []⟩
  bind x f := ⟨(f x.value).value, x.events ++ (f x.value).events⟩

def report (e : Event) : Logged Unit :=
  ⟨(), [e]⟩

def reportAll (es : List Event) : Logged Unit :=
  ⟨(), es⟩

end Logged

end Agreement
