import Agreement.Log

/-!
# Drafts of grammars

A grammar is put together step by step. Items and rules may be given in notation; the first that
does not read is kept until the draft is finished, and a step that fails adds nothing.
-/

namespace Agreement

/-- A step in putting a grammar together. -/
inductive Step where
  | dual (value : Bool)
  | inclusive (value : Bool)
  | transitive (value : Bool)
  /-- An item with its meaning in notation. -/
  | morpheme (form meaning : String)
  /-- A rule in notation. -/
  | rule (deleted context : String)
  | pushItem (item : Item)
  | pushRule (rule : Rule)
deriving Repr, DecidableEq

/-- A grammar in the making, and the first failure met on the way. -/
structure Draft where
  grammar : Grammar
  failure : Option InputError := none
deriving Repr, DecidableEq

namespace Draft

/-- The draft of a grammar without items and rules. -/
def named (name : String) : Draft :=
  { grammar := { name } }

/-- A draft that starts from a finished grammar. -/
def ofGrammar (g : Grammar) : Draft :=
  { grammar := g }

def pushItem (d : Draft) (i : Item) : Draft :=
  { d with grammar.lexicon := d.grammar.lexicon ++ [i] }

def pushRule (d : Draft) (r : Rule) : Draft :=
  { d with grammar.rules := d.grammar.rules ++ [r] }

/-- Keeps a failure unless there was one before. -/
def fail (d : Draft) (e : InputError) : Draft :=
  { d with failure := d.failure.or (some e) }

/-- Adds an item with its meaning in notation. -/
def morpheme (d : Draft) (form meaning : String) : Draft :=
  match Structure.read meaning with
  | .ok m => d.pushItem ⟨form, m⟩
  | .error e => d.fail e

/-- Adds a rule in notation; the deletion is read before the context. -/
def rule (d : Draft) (deleted context : String) : Draft :=
  match Bundle.read deleted with
  | .error e => d.fail e
  | .ok b =>
      match Structure.read context with
      | .ok c => d.pushRule ⟨b, c⟩
      | .error e => d.fail e

def take (d : Draft) : Step → Draft
  | .dual value => { d with grammar.dual := value }
  | .inclusive value => { d with grammar.inclusive := value }
  | .transitive value => { d with grammar.transitive := value }
  | .morpheme form meaning => d.morpheme form meaning
  | .rule deleted context => d.rule deleted context
  | .pushItem i => d.pushItem i
  | .pushRule r => d.pushRule r

def takeAll (d : Draft) (steps : List Step) : Draft :=
  steps.foldl take d

end Draft

namespace Grammar

/-- Reports a finished grammar: its warnings, then its size. -/
def announce (g : Grammar) : Logged Unit :=
  .reportAll (g.lint.map (.lint g.name) ++
    [.grammarBuilt g.name g.lexicon.length g.rules.length])

end Grammar

/-- Finishes a draft. A draft with a failure reports nothing. -/
def Draft.build (d : Draft) : Logged (Except InputError Grammar) :=
  match d.failure with
  | some e => pure (.error e)
  | none => do
      d.grammar.announce
      pure (.ok d.grammar)

end Agreement
