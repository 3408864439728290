import Agreement.Grammar.Draft

/-!
# The catalogue

Grammars of languages with verbal agreement, each with the alignment in which its paradigm is
drawn. Kulung and Karuk come twice, so that a paradigm can be compared before and after rules are
added. The grammars are put together from notation whenever the catalogue is asked for, and one that
does not read leaves no catalogue.
-/

namespace Agreement.Catalogue

/-! ## Grammars -/

/-- A computation that reports events and may refuse an input. -/
abbrev Building := ExceptT InputError Logged

def buildAinu : Building Grammar :=
  (Draft.named "Ainu").takeAll [
    .transitive true,
    .morpheme "en-" "[[Acc +1 -pl]]",
    .morpheme "un-" "[[Acc +1 +pl]]",
    .morpheme "eci-" "[[+2 +pl]]",
    .morpheme "e-" "[[+2 -pl] [+3]]",
    .morpheme "ku-" "[[Nom +1 -pl] [+3]]",
    .morpheme "ci-" "[[Nom +1 +pl] [Acc +3]]",
    .morpheme "-as" "[[Nom +1 +pl +intr]]",
    .rule "[+pl]" "[[Nom +1] [Acc +2 -pl]]",
    .rule "[+3]" "[[Nom -3 -pl +intr]]"]
  |>.build

/-- Karuk, positive. -/
def buildKaruk : Building Grammar :=
  (Draft.named "Karuk").takeAll [
    .transitive true,
    .morpheme "-ap" "[[Acc +2 +pl]]",
    .rule "[+pl]" "[[Nom +3] [Acc +2]]"]
  |>.build

/-- Karuk, negative: two more generalisations of `-ap`. -/
def buildKarukNegative : Building Grammar := do
  let positive ← buildKaruk
  (Draft.ofGrammar positive).takeAll [
    .rule "[Acc +2]" "[[Nom -1] [-3 +pl]]",
    .rule "[Acc +2]" "[[Nom +3]]"]
  |>.build

/-- The switches and the lexicon of Kulung. -/
def kulungDraft : Draft :=
  (Draft.named "Kulung").takeAll [
    .transitive true,
    .dual true,
    .inclusive true,
    .morpheme "-o" "[[Abs +1 +sg]]",
    .morpheme "-na" "[[Erg +1 +sg] [Abs -1 +2 -pl]]",
    .morpheme "-n" "[[Abs -1 +2 +pl]]",
    .morpheme "-c" "[[Abs -3 -sg -pl]]",
    .morpheme "-i" "[[Abs -3 -sg]]",
    .morpheme "-u" "[[Erg -3 -sg] [Abs +3]]",
    .morpheme "-am" "[[Erg -3 +pl] [Abs +3]]",
    .morpheme "-ka" "[[Abs +1 -2 -sg]]"]

/-- Kulung without rules, with the ranges that its items predict by themselves. -/
def buildKulungPredicted : Building Grammar :=
  kulungDraft.build

/-- Kulung with its rules. -/
def buildKulung : Building Grammar :=
  kulungDraft.takeAll [
    .rule "[Abs]" "[[Abs +1 +sg]]",
    .rule "[Abs]" "[[Abs +3]]",
    .rule "[-3]" "[[Erg +3] [Abs +3]]",
    .rule "[-3]" "[[Erg +sg] [Abs +3]]",
    .rule "[-pl]" "[[Erg +3] [Abs +3]]",
    .rule "[-pl]" "[[Erg +sg] [Abs +3]]"]
  |>.build

def buildLimbu : Building Grammar :=
  (Draft.named "Limbu").takeAll [
    .transitive true,
    .dual true,
    .inclusive true,
    .morpheme "a-" "[[Abs +1] [+2] [-sg]]",
    .rule "[Abs]" "[[Abs +3]]"]
  |>.build

/-! ## Entries -/

structure Entry where
  /-- The name by which the entry is looked up. -/
  key : String
  title : String
  /-- The alignment in which the paradigm is drawn unless another one is asked for. -/
  alignment : Alignment
  grammar : Grammar
deriving Repr, DecidableEq

/-- All entries, in the order in which they are listed. Negative Karuk starts from positive Karuk,
which is built anew for it. -/
def load : Building (List Entry) := do
  return [
    ⟨"ainu", "Verb agreement in Ainu (isolate; Japan)", .accusative, ← buildAinu⟩,
    ⟨"karuk", "Verb agreement in Karuk (Hokan; USA), positive indicative", .accusative,
      ← buildKaruk⟩,
    ⟨"karuk-negative", "Verb agreement in Karuk (Hokan; USA), negative", .accusative,
      ← buildKarukNegative⟩,
    ⟨"kulung-predicted", "Verb agreement in Kulung (Tibeto-Burman; Nepal), predicted ranges",
      .ergative, ← buildKulungPredicted⟩,
    ⟨"kulung", "Verb agreement in Kulung (Tibeto-Burman; Nepal), actual ranges", .ergative,
      ← buildKulung⟩,
    ⟨"limbu", "Verb agreement in Limbu (Tibeto-Burman; Bhutan, India, Nepal)", .ergative,
      ← buildLimbu⟩]

/-- Looks an entry up by its key. -/
def find (key : String) : Building Entry := do
  match (← load).find? (·.key == key) with
  | some e => return e
  | none => throw (.unknownLanguage key)

end Agreement.Catalogue
