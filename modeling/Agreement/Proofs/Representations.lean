import Agreement.Proofs.Catalogue
import Agreement.Json.Reader
import Agreement.Json.Writer
import Agreement.Proofs.Draft
import Agreement.Proofs.Notation

/-!
# Representations of grammars

A grammar can be written as JSON, with the parts of items, rules and grammars named in objects or
in their places in arrays, and it can be put together from notation. Each of these gives the grammar
back, whatever its name and its forms are.
-/

namespace Agreement

/-! ## JSON -/

namespace Json

theorem readArray_map {α : Type} {write : α → Json} {read : Json → Except Refusal α}
    (h : ∀ a, read (write a) = .ok a) (as : List α) :
    readArray read (.array (as.map write)) = .ok as :=
  mapM_map_eq_ok fun a _ => h a

theorem readFeature_ofFeature (f : Feature) : readFeature (ofFeature f) = .ok f := by
  simp only [readFeature, ofFeature, readString, bind, Except.bind, f.read_text]

theorem readBundle_ofBundle (b : Bundle) : readBundle (ofBundle b) = .ok b := by
  simp only [readBundle, ofBundle, readArray_map readFeature_ofFeature, bind, Except.bind,
    b.ofFeatures_features]

theorem readStructure_ofStructure (s : Structure) : readStructure (ofStructure s) = .ok s := by
  rw [readStructure, ofStructure, readArray_map readBundle_ofBundle]
  rfl

/-! ### Objects -/

/-- The fields of an item may come in any order and among others. -/
theorem readItem_object {fields : List (String × Json)} {i : Item}
    (hform : fields.lookup "form" = some (.string i.form))
    (hmeaning : fields.lookup "meaning" = some (ofStructure i.meaning)) :
    readItem (.object fields) = .ok i := by
  rw [readItem, hform, hmeaning, readIf, readIf, readStructure_ofStructure]
  rfl

theorem readItem_ofItem (i : Item) : readItem (ofItem i) = .ok i :=
  readItem_object rfl rfl

theorem readRule_object {fields : List (String × Json)} {r : Rule}
    (hdeleted : fields.lookup "delete" = some (ofBundle r.deleted))
    (hcontext : fields.lookup "context" = some (ofStructure r.context)) :
    readRule (.object fields) = .ok r := by
  rw [readRule, hdeleted, hcontext, readIf, readIf, readStructure_ofStructure, readBundle_ofBundle]
  rfl

theorem readRule_ofRule (r : Rule) : readRule (ofRule r) = .ok r :=
  readRule_object rfl rfl

/-- The fields of a grammar may come in any order and among others. -/
theorem readGrammar_object {fields : List (String × Json)} {g : Grammar}
    (hname : fields.lookup "name" = some (.string g.name))
    (hlexicon : fields.lookup "morphemes" = some (.array (g.lexicon.map ofItem)))
    (hrules : fields.lookup "rules" = some (.array (g.rules.map ofRule)))
    (hdual : fields.lookup "dual" = some (.bool g.dual))
    (hinclusive : fields.lookup "inclusive" = some (.bool g.inclusive))
    (htransitive : fields.lookup "transitive" = some (.bool g.transitive)) :
    readGrammar (.object fields) = .ok g := by
  simp only [readGrammar, hname, hlexicon, hrules, hdual, hinclusive, htransitive, readIf,
    readArray_map readItem_ofItem, readArray_map readRule_ofRule]
  rfl

theorem readGrammar_ofGrammar (g : Grammar) : readGrammar (ofGrammar g) = .ok g :=
  readGrammar_object rfl rfl rfl rfl rfl rfl

/-! ### Arrays -/

def partsOfItem (i : Item) : Json :=
  .array [.string i.form, ofStructure i.meaning]

def partsOfRule (r : Rule) : Json :=
  .array [ofBundle r.deleted, ofStructure r.context]

/-- A grammar as the array of its parts, and so are its items and rules. -/
def partsOfGrammar (g : Grammar) : Json :=
  .array [.string g.name, .array (g.lexicon.map partsOfItem), .array (g.rules.map partsOfRule),
    .bool g.dual, .bool g.inclusive, .bool g.transitive]

theorem readItem_partsOfItem (i : Item) : readItem (partsOfItem i) = .ok i := by
  simp only [readItem, partsOfItem, readStructure_ofStructure]
  rfl

theorem readRule_partsOfRule (r : Rule) : readRule (partsOfRule r) = .ok r := by
  simp only [readRule, partsOfRule, readBundle_ofBundle, readStructure_ofStructure]
  rfl

theorem readGrammar_partsOfGrammar (g : Grammar) : readGrammar (partsOfGrammar g) = .ok g := by
  simp only [readGrammar, partsOfGrammar, readIf, List.getElem?_cons_zero, List.getElem?_cons_succ,
    readArray_map readItem_partsOfItem, readArray_map readRule_partsOfRule]
  rfl

end Json

/-! ## Grammars -/

namespace Grammar

/-- A grammar is read back from the object of its fields and from the array of its parts, and it is
built from its name, its switches in any order, and its items and rules in notation. -/
theorem read_and_build_eq (g : Grammar) {switches : List Step}
    (hswitches :
      switches.Perm [.dual g.dual, .inclusive g.inclusive, .transitive g.transitive]) :
    Json.readGrammar (Json.ofGrammar g) = .ok g ∧
    Json.readGrammar (Json.partsOfGrammar g) = .ok g ∧
    ((Draft.named g.name).takeAll (switches ++ g.steps)).build.value = .ok g := by
  refine ⟨Json.readGrammar_ofGrammar g, Json.readGrammar_partsOfGrammar g, ?_⟩
  rw [Draft.takeAll_steps (Draft.takeAll_switches _ hswitches)]
  rfl

theorem karukNegative_read_and_build_eq :
    let switches : List Step := [.transitive true, .dual false, .inclusive false]
    switches.Perm [.dual Catalogue.karukNegative.dual,
      .inclusive Catalogue.karukNegative.inclusive,
      .transitive Catalogue.karukNegative.transitive] ∧
    ((Draft.named "Karuk").takeAll (switches ++ Catalogue.karukNegative.steps)).build.value =
      .ok Catalogue.karukNegative := by
  intro switches
  have hperm : switches.Perm [.dual Catalogue.karukNegative.dual,
      .inclusive Catalogue.karukNegative.inclusive,
      .transitive Catalogue.karukNegative.transitive] := by
    decide
  exact ⟨hperm, (Catalogue.karukNegative.read_and_build_eq hperm).2.2⟩

end Grammar

end Agreement
