import Agreement.Proofs.JsonShapes

/-!
# JSON values that say the same

A record may be an object or the array of its parts, and only its parts matter; of a bundle it
matters which features are listed, not in which order. Values that differ in nothing else, at
whatever depth, are read as the same grammar.
-/

namespace Agreement.Json

inductive SameArray (Same : Json → Json → Prop) : Json → Json → Prop
  | refl (v) : SameArray Same v v
  | array {vs ws} : List.Forall₂ Same vs ws → SameArray Same (.array vs) (.array ws)

/-- The same texts in any order. -/
inductive SameBundle : Json → Json → Prop
  | refl (v) : SameBundle v v
  | array {vs ws} : vs.Perm ws → SameBundle (.array vs) (.array ws)

def SameStructure : Json → Json → Prop :=
  SameArray SameBundle

/-- Items with the same parts, each of them an object or an array. -/
structure SameItem (v w : Json) : Prop where
  record : v.IsRecord 2 ↔ w.IsRecord 2
  form : v.part "form" 0 = w.part "form" 0
  meaning : Option.Rel SameStructure (v.part "meaning" 1) (w.part "meaning" 1)

structure SameRule (v w : Json) : Prop where
  record : v.IsRecord 2 ↔ w.IsRecord 2
  deleted : Option.Rel SameBundle (v.part "delete" 0) (w.part "delete" 0)
  context : Option.Rel SameStructure (v.part "context" 1) (w.part "context" 1)

/-- Grammars with the same parts, where one that is absent is as good as one that is empty or
false. -/
structure SameGrammar (v w : Json) : Prop where
  record : v.IsRecord 6 ↔ w.IsRecord 6
  name : v.part "name" 0 = w.part "name" 0
  lexicon : SameArray SameItem ((v.part "morphemes" 1).getD (.array []))
    ((w.part "morphemes" 1).getD (.array []))
  rules : SameArray SameRule ((v.part "rules" 2).getD (.array []))
    ((w.part "rules" 2).getD (.array []))
  dual : (v.part "dual" 3).getD (.bool false) = (w.part "dual" 3).getD (.bool false)
  inclusive :
    (v.part "inclusive" 4).getD (.bool false) = (w.part "inclusive" 4).getD (.bool false)
  transitive :
    (v.part "transitive" 5).getD (.bool false) = (w.part "transitive" 5).getD (.bool false)

/-- Values that say the same have the same shapes. -/
def Keeps {α : Type} (Same : Json → Json → Prop) (Shape : Json → α → Prop) : Prop :=
  ∀ ⦃v w⦄, Same v w → ∀ a, Shape v a ↔ Shape w a

section

variable {α : Type} {Same : Json → Json → Prop} {Shape : Json → α → Prop}

theorem Keeps.forall₂ (h : Keeps Same Shape) {vs ws : List Json} (hsame : List.Forall₂ Same vs ws)
    (as : List α) : List.Forall₂ Shape vs as ↔ List.Forall₂ Shape ws as := by
  induction hsame generalizing as with
  | nil => rfl
  | cons hvw _ ih =>
      cases as with
      | nil => simp
      | cons a as => rw [List.forall₂_cons, List.forall₂_cons, h hvw a, ih as]

theorem Keeps.isArray (h : Keeps Same Shape) : Keeps (SameArray Same) (IsArray Shape) := by
  rintro _ _ (_ | hsame) as
  · rfl
  · simp [IsArray, h.forall₂ hsame as]

theorem Keeps.present (h : Keeps Same Shape) {p q : Option Json} (hsame : Option.Rel Same p q)
    (a : α) : (∃ v, p = some v ∧ Shape v a) ↔ ∃ v, q = some v ∧ Shape v a := by
  cases hsame with
  | none => rfl
  | some hvw => simp [h hvw a]

/-- An absent part counts as the value that has the shape of the default alone. -/
theorem optional_getD_iff {default : α} {v : Json} (hv : ∀ a, Shape v a ↔ a = default)
    {p : Option Json} {a : α} : Optional Shape default p a ↔ Shape (p.getD v) a := by
  constructor
  · rintro (_ | ha)
    · exact (hv default).mpr rfl
    · exact ha
  · cases p with
    | none =>
        intro ha
        obtain rfl := (hv a).mp ha
        exact .absent
    | some w => exact .present

theorem Keeps.optional (h : Keeps Same Shape) {default : α} {v : Json}
    (hv : ∀ a, Shape v a ↔ a = default) {p q : Option Json} (hsame : Same (p.getD v) (q.getD v))
    (a : α) : Optional Shape default p a ↔ Optional Shape default q a := by
  rw [optional_getD_iff hv, optional_getD_iff hv, h hsame a]

theorem isArray_nil_iff (as : List α) : IsArray Shape (.array []) as ↔ as = [] := by
  simp [IsArray]

end

theorem keeps_bool : Keeps Eq IsBool := by
  rintro v _ rfl b
  rfl

theorem isBool_iff (b c : Bool) : IsBool (.bool b) c ↔ c = b := by
  simp [IsBool, eq_comm]

theorem keeps_bundle : Keeps SameBundle IsBundle := by
  have hperm : ∀ {vs ws : List Json} {b : Bundle}, vs.Perm ws → IsBundle (.array vs) b →
      IsBundle (.array ws) b := by
    rintro vs ws b hvw ⟨fs, hvs, hslots, hmem⟩
    -- The permuted texts are those of the permuted features.
    obtain ⟨gs, hws, hgs⟩ := exists_perm_of_perm_map (array.inj hvs ▸ hvw.symm)
    exact ⟨gs, congrArg array hws, (hgs.map Feature.slot).nodup_iff.mpr hslots,
      fun f => (hmem f).trans hgs.mem_iff.symm⟩
  rintro _ _ (_ | hvw) b
  · rfl
  · exact ⟨hperm hvw, hperm hvw.symm⟩

theorem keeps_structure : Keeps SameStructure IsStructure :=
  fun _ _ h s => keeps_bundle.isArray h s.bundles

theorem keeps_item : Keeps SameItem IsItem := by
  intro v w h i
  have hmeaning := keeps_structure.present h.meaning i.meaning
  constructor
  · intro hi
    exact ⟨h.record.mp hi.record, h.form ▸ hi.form, hmeaning.mp hi.meaning⟩
  · intro hi
    exact ⟨h.record.mpr hi.record, h.form ▸ hi.form, hmeaning.mpr hi.meaning⟩

theorem keeps_rule : Keeps SameRule IsRule := by
  intro v w h r
  have hdeleted := keeps_bundle.present h.deleted r.deleted
  have hcontext := keeps_structure.present h.context r.context
  constructor
  · intro hr
    exact ⟨h.record.mp hr.record, hdeleted.mp hr.deleted, hcontext.mp hr.context⟩
  · intro hr
    exact ⟨h.record.mpr hr.record, hdeleted.mpr hr.deleted, hcontext.mpr hr.context⟩

theorem keeps_grammar : Keeps SameGrammar IsGrammar := by
  intro v w h g
  have hlexicon := keeps_item.isArray.optional isArray_nil_iff h.lexicon g.lexicon
  have hrules := keeps_rule.isArray.optional isArray_nil_iff h.rules g.rules
  have hdual := keeps_bool.optional (isBool_iff false) h.dual g.dual
  have hinclusive := keeps_bool.optional (isBool_iff false) h.inclusive g.inclusive
  have htransitive := keeps_bool.optional (isBool_iff false) h.transitive g.transitive
  constructor
  · intro hg
    exact ⟨h.record.mp hg.record, h.name ▸ hg.name, hlexicon.mp hg.lexicon, hrules.mp hg.rules,
      hdual.mp hg.dual, hinclusive.mp hg.inclusive, htransitive.mp hg.transitive⟩
  · intro hg
    exact ⟨h.record.mpr hg.record, h.name ▸ hg.name, hlexicon.mpr hg.lexicon,
      hrules.mpr hg.rules, hdual.mpr hg.dual, hinclusive.mpr hg.inclusive,
      htransitive.mpr hg.transitive⟩

/-! ## Objects and arrays -/

/-- The names of the parts of an item, in the order of their places. -/
def itemParts : List String :=
  ["form", "meaning"]

def ruleParts : List String :=
  ["delete", "context"]

def grammarParts : List String :=
  ["name", "morphemes", "rules", "dual", "inclusive", "transitive"]

def SameParts (names : List String) (v w : Json) : Prop :=
  (v.IsRecord names.length ↔ w.IsRecord names.length) ∧
    ∀ place name, names[place]? = some name → v.part name place = w.part name place

section

variable {names : List String} {fields fields' : List (String × Json)} {v w : Json}

/-- A field of another name changes no part, whatever its value is. -/
theorem sameParts_insert {key : String} (hkey : key ∉ names) (value : Json) :
    SameParts names (.object (fields ++ (key, value) :: fields')) (.object (fields ++ fields')) := by
  refine ⟨Iff.rfl, fun place name hname => ?_⟩
  have hne : (name == key) = false := by
    rw [beq_eq_false_iff_ne]
    rintro rfl
    exact hkey (List.mem_of_getElem? hname)
  simp [part, List.lookup_append, List.lookup_cons, hne]

/-- An object that has all fields has the same parts as the array of their values. -/
theorem sameParts_array {values : List Json}
    (h : names.map (fun name => fields.lookup name) = values.map some) :
    SameParts names (.object fields) (.array values) := by
  have hlength : names.length = values.length := by simpa using congrArg List.length h
  refine ⟨iff_of_true trivial hlength.ge, fun place name hname => ?_⟩
  have hplace : some (fields.lookup name) = values[place]?.map some := by
    rw [← List.getElem?_map, ← h, List.getElem?_map, hname, Option.map_some]
  obtain ⟨value, hvalue, hlookup⟩ := Option.map_eq_some_iff.mp hplace.symm
  exact hlookup.symm.trans hvalue.symm

theorem rel_refl {Same : Json → Json → Prop} (h : ∀ v, Same v v) (p : Option Json) :
    Option.Rel Same p p := by
  cases p with
  | none => exact .none
  | some v => exact .some (h v)

theorem SameParts.item (h : SameParts itemParts v w) : SameItem v w where
  record := h.1
  form := h.2 0 "form" rfl
  meaning := h.2 1 "meaning" rfl ▸ rel_refl SameArray.refl _

theorem SameParts.rule (h : SameParts ruleParts v w) : SameRule v w where
  record := h.1
  deleted := h.2 0 "delete" rfl ▸ rel_refl SameBundle.refl _
  context := h.2 1 "context" rfl ▸ rel_refl SameArray.refl _

theorem SameParts.grammar (h : SameParts grammarParts v w) : SameGrammar v w where
  record := h.1
  name := h.2 0 "name" rfl
  lexicon := h.2 1 "morphemes" rfl ▸ SameArray.refl _
  rules := h.2 2 "rules" rfl ▸ SameArray.refl _
  dual := h.2 3 "dual" rfl ▸ rfl
  inclusive := h.2 4 "inclusive" rfl ▸ rfl
  transitive := h.2 5 "transitive" rfl ▸ rfl

theorem sameItem_array {form meaning : Json} (hform : fields.lookup "form" = some form)
    (hmeaning : fields.lookup "meaning" = some meaning) :
    SameItem (.object fields) (.array [form, meaning]) :=
  SameParts.item (sameParts_array (by simp [itemParts, hform, hmeaning]))

theorem sameRule_array {deleted context : Json} (hdeleted : fields.lookup "delete" = some deleted)
    (hcontext : fields.lookup "context" = some context) :
    SameRule (.object fields) (.array [deleted, context]) :=
  SameParts.rule (sameParts_array (by simp [ruleParts, hdeleted, hcontext]))

/-- Where fields of a grammar are absent, the array has values for them that are empty or false. -/
theorem sameGrammar_array {name : Json} (hname : fields.lookup "name" = some name) :
    SameGrammar (.object fields) (.array [name,
      (fields.lookup "morphemes").getD (.array []), (fields.lookup "rules").getD (.array []),
      (fields.lookup "dual").getD (.bool false), (fields.lookup "inclusive").getD (.bool false),
      (fields.lookup "transitive").getD (.bool false)]) where
  record := iff_of_true trivial (Nat.le_refl 6)
  name := hname
  lexicon := .refl _
  rules := .refl _
  dual := rfl
  inclusive := rfl
  transitive := rfl

end

/-! ## Reading -/

/-- Exactly the values of the shape of a grammar are read, and values that say the same are read as
the same grammar. An object says the same with a field of another name as without it, and the same
as the array of its parts, be it a grammar or an item or a rule of one. -/
theorem readGrammar_exact :
    (∀ v g, readGrammar v = .ok g ↔ IsGrammar v g) ∧
    (∀ v w, SameGrammar v w → ∀ g, readGrammar v = .ok g ↔ readGrammar w = .ok g) ∧
    (∀ (fields fields' : List (String × Json)) (key : String) (value : Json),
      let more := Json.object (fields ++ (key, value) :: fields')
      let less := Json.object (fields ++ fields')
      (key ∉ grammarParts → SameGrammar more less) ∧
      (key ∉ itemParts → SameItem more less) ∧
      (key ∉ ruleParts → SameRule more less)) ∧
    ∀ fields : List (String × Json),
      (∀ name, fields.lookup "name" = some name →
        SameGrammar (.object fields) (.array [name,
          (fields.lookup "morphemes").getD (.array []), (fields.lookup "rules").getD (.array []),
          (fields.lookup "dual").getD (.bool false),
          (fields.lookup "inclusive").getD (.bool false),
          (fields.lookup "transitive").getD (.bool false)])) ∧
      (∀ form meaning, fields.lookup "form" = some form →
        fields.lookup "meaning" = some meaning →
          SameItem (.object fields) (.array [form, meaning])) ∧
      (∀ deleted context, fields.lookup "delete" = some deleted →
        fields.lookup "context" = some context →
          SameRule (.object fields) (.array [deleted, context])) := by
  refine ⟨reads_grammar, fun v w h g => ?_, fun fields fields' key value => ?_, fun fields => ?_⟩
  · rw [reads_grammar v g, reads_grammar w g]
    exact keeps_grammar h g
  · exact ⟨fun hkey => (sameParts_insert hkey value).grammar,
      fun hkey => (sameParts_insert hkey value).item,
      fun hkey => (sameParts_insert hkey value).rule⟩
  · exact ⟨fun _ => sameGrammar_array, fun _ _ => sameItem_array, fun _ _ => sameRule_array⟩

example :
    readGrammar (.object [("source", .null), ("name", .string "Ainu"), ("morphemes", .array [
      .array [.string "ku-", .array [.array [.string "+1", .string "Nom"]]]])]) =
    .ok {
      name := "Ainu"
      lexicon := [⟨"ku-", ⟨[Bundle.of [.case .nominative, .signed .person1 .plus]]⟩⟩] } :=
  rfl

end Agreement.Json
