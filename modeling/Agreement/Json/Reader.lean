import Agreement.Json.Basic
import Agreement.Grammar.Basic
import Agreement.Alignment
import Agreement.Bundle.Notation

/-!
# Grammars from JSON

An item, a rule or a grammar is read from an object, whose fields are read in the order of their
names and may be accompanied by others, or from the array of its parts. The first failure counts;
that a field is missing shows only after all others were read.
-/

namespace Agreement.Json

inductive Expected where
  | string
  | boolean
  | sequence
  | item
  | rule
  | grammar
  | alignment
  | unit
deriving Repr, DecidableEq

/-- What was asked for, as messages put it. -/
def Expected.text : Expected → String
  | string => "a string"
  | boolean => "a boolean"
  | sequence => "a sequence"
  | item => "struct VocabularyItem"
  | rule => "struct GeneralisationRule"
  | grammar => "struct LanguageProfile"
  | alignment => "string or map"
  | unit => "unit"

inductive Refusal where
  | wrongType (found : Json) (expected : Expected)
  /-- An array of `length` values where `expected` has `parts`. -/
  | tooShort (length : Nat) (expected : Expected) (parts : Nat)
  /-- An array with values left over. -/
  | tooLong (length : Nat)
  | missingField (name : String)
  /-- A name of no alignment. -/
  | unknownVariant (name : String)
  /-- An object that has not exactly one field. -/
  | notSingleKey
  /-- A text that names no feature, or features that do not make a bundle. -/
  | content (error : InputError)
deriving Repr

def Refusal.message : Refusal → String
  | wrongType found expected => "invalid type: " ++ found.kind ++ ", expected " ++ expected.text
  | tooShort length expected parts =>
      "invalid length " ++ length.repr ++ ", expected " ++ expected.text ++ " with " ++ parts.repr ++
        " elements"
  | tooLong length => "invalid length " ++ length.repr ++ ", expected fewer elements in array"
  | missingField name => "missing field `" ++ name ++ "`"
  | unknownVariant name =>
      "unknown variant `" ++ name ++ "`, expected `accusative` or `ergative`"
  | notSingleKey => "invalid value: map, expected map with a single key"
  | content error => error.message

/-! ## Plain values -/

def readString : Json → Except Refusal String
  | .string s => .ok s
  | v => .error (.wrongType v .string)

def readBool : Json → Except Refusal Bool
  | .bool b => .ok b
  | v => .error (.wrongType v .boolean)

def readArray {α : Type} (read : Json → Except Refusal α) : Json → Except Refusal (List α)
  | .array vs => vs.mapM read
  | v => .error (.wrongType v .sequence)

/-- Reads a part that may be absent. -/
def readIf {α : Type} (read : Json → Except Refusal α) : Option Json → Except Refusal (Option α)
  | none => .ok none
  | some v => some <$> read v

/-- A part that may not be absent. -/
def require {α : Type} (name : String) : Option α → Except Refusal α
  | none => .error (.missingField name)
  | some a => .ok a

/-- Refuses an array that is longer than the parts read from it. -/
def atMost (parts : Nat) (vs : List Json) : Except Refusal Unit :=
  if vs.length ≤ parts then .ok () else .error (.tooLong vs.length)

/-! ## Features -/

def readFeature (v : Json) : Except Refusal Feature := do
  match Feature.read (← readString v) with
  | .ok f => .ok f
  | .error e => .error (.content e)

/-- Reads a bundle. Every feature is read before slots are compared. -/
def readBundle (v : Json) : Except Refusal Bundle := do
  match Bundle.ofFeatures (← readArray readFeature v) with
  | .ok b => .ok b
  | .error e => .error (.content e)

def readStructure (v : Json) : Except Refusal Structure := do
  return ⟨← readArray readBundle v⟩

/-! ## Grammars -/

def readItem : Json → Except Refusal Item
  | .object fields => do
      let form ← readIf readString (fields.lookup "form")
      let meaning ← readIf readStructure (fields.lookup "meaning")
      return { form := ← require "form" form, meaning := ← require "meaning" meaning }
  | .array vs =>
      match vs with
      | [] => .error (.tooShort 0 .item 2)
      | [form] => do
          let _ ← readString form
          throw (.tooShort 1 .item 2)
      | form :: meaning :: _ => do
          let item : Item := { form := ← readString form, meaning := ← readStructure meaning }
          atMost 2 vs
          return item
  | v => .error (.wrongType v .item)

def readRule : Json → Except Refusal Rule
  | .object fields => do
      let context ← readIf readStructure (fields.lookup "context")
      let deleted ← readIf readBundle (fields.lookup "delete")
      return { deleted := ← require "delete" deleted, context := ← require "context" context }
  | .array vs =>
      match vs with
      | [] => .error (.tooShort 0 .rule 2)
      | [deleted] => do
          let _ ← readBundle deleted
          throw (.tooShort 1 .rule 2)
      | deleted :: context :: _ => do
          let rule : Rule := { deleted := ← readBundle deleted, context := ← readStructure context }
          atMost 2 vs
          return rule
  | v => .error (.wrongType v .rule)

/-- Reads a grammar, of which all parts but the name may be absent. -/
def readGrammar : Json → Except Refusal Grammar
  | .object fields => do
      let dual ← readIf readBool (fields.lookup "dual")
      let inclusive ← readIf readBool (fields.lookup "inclusive")
      let lexicon ← readIf (readArray readItem) (fields.lookup "morphemes")
      let name ← readIf readString (fields.lookup "name")
      let rules ← readIf (readArray readRule) (fields.lookup "rules")
      let transitive ← readIf readBool (fields.lookup "transitive")
      return {
        name := ← require "name" name
        lexicon := lexicon.getD []
        rules := rules.getD []
        dual := dual.getD false
        inclusive := inclusive.getD false
        transitive := transitive.getD false }
  | .array vs =>
      match vs with
      | [] => .error (.tooShort 0 .grammar 6)
      | name :: rest => do
          let name ← readString name
          let lexicon ← readIf (readArray readItem) rest[0]?
          let rules ← readIf (readArray readRule) rest[1]?
          let dual ← readIf readBool rest[2]?
          let inclusive ← readIf readBool rest[3]?
          let transitive ← readIf readBool rest[4]?
          atMost 6 vs
          return {
            name
            lexicon := lexicon.getD []
            rules := rules.getD []
            dual := dual.getD false
            inclusive := inclusive.getD false
            transitive := transitive.getD false }
  | v => .error (.wrongType v .grammar)

/-! ## Alignments -/

/-- The alignment of a name. -/
def alignmentOfName (name : String) : Except Refusal Alignment :=
  if name = "accusative" then .ok .accusative
  else if name = "ergative" then .ok .ergative
  else .error (.unknownVariant name)

/-- Reads an alignment: its name, or an object with a single field of that name without content. -/
def readAlignment : Json → Except Refusal Alignment
  | .string name => alignmentOfName name
  | .object [(name, content)] => do
      let alignment ← alignmentOfName name
      match content with
      | .null => return alignment
      | v => throw (.wrongType v .unit)
  | .object _ => .error .notSingleKey
  | v => .error (.wrongType v .alignment)

end Agreement.Json
