import Mathlib.Data.List.Forall2
import Mathlib.Data.Option.Basic
import Agreement.Json.Reader
import Agreement.Json.Writer
import Agreement.Proofs.Syntax

/-!
# The shapes of JSON values

Which JSON values are bundles, structures, items, rules and grammars, and which ones they are, said
without regard to how they are read. Reading accepts exactly these.
-/

namespace Agreement.Json

/-! ## Shapes -/

def IsArray {α : Type} (Shape : Json → α → Prop) (v : Json) (as : List α) : Prop :=
  ∃ vs, v = .array vs ∧ List.Forall₂ Shape vs as

/-- A part of a record, which has a name in an object and a place in an array. -/
def part (name : String) (place : Nat) : Json → Option Json
  | .object fields => fields.lookup name
  | .array vs => vs[place]?
  | _ => none

/-- Whether a value can be a record of so many parts: an object may have any fields, but an array
may not have more values than there are parts. -/
def IsRecord (parts : Nat) : Json → Prop
  | .object _ => True
  | .array vs => vs.length ≤ parts
  | _ => False

/-- A part that counts as `default` where it is absent. One that is `null` is not absent. -/
inductive Optional {α : Type} (Shape : Json → α → Prop) (default : α) : Option Json → α → Prop
  | absent : Optional Shape default none default
  | present {v a} : Shape v a → Optional Shape default (some v) a

def IsBool (v : Json) (b : Bool) : Prop :=
  v = .bool b

/-- The texts of features that fill different slots, in any order. -/
def IsBundle (v : Json) (b : Bundle) : Prop :=
  ∃ fs : List Feature, v = .array (fs.map ofFeature) ∧ (fs.map Feature.slot).Nodup ∧
    ∀ f, f ∈ b ↔ f ∈ fs

def IsStructure (v : Json) (s : Structure) : Prop :=
  IsArray IsBundle v s.bundles

structure IsItem (v : Json) (i : Item) : Prop where
  record : v.IsRecord 2
  form : v.part "form" 0 = some (.string i.form)
  meaning : ∃ w, v.part "meaning" 1 = some w ∧ IsStructure w i.meaning

structure IsRule (v : Json) (r : Rule) : Prop where
  record : v.IsRecord 2
  deleted : ∃ w, v.part "delete" 0 = some w ∧ IsBundle w r.deleted
  context : ∃ w, v.part "context" 1 = some w ∧ IsStructure w r.context

structure IsGrammar (v : Json) (g : Grammar) : Prop where
  record : v.IsRecord 6
  name : v.part "name" 0 = some (.string g.name)
  lexicon : Optional (IsArray IsItem) [] (v.part "morphemes" 1) g.lexicon
  rules : Optional (IsArray IsRule) [] (v.part "rules" 2) g.rules
  dual : Optional IsBool false (v.part "dual" 3) g.dual
  inclusive : Optional IsBool false (v.part "inclusive" 4) g.inclusive
  transitive : Optional IsBool false (v.part "transitive" 5) g.transitive

/-! ## Reading -/

theorem require_eq_ok_iff {α : Type} {name : String} {o : Option α} {a : α} :
    require name o = .ok a ↔ o = some a := by
  cases o <;> simp [require]

theorem atMost_eq_ok_iff {parts : Nat} {vs : List Json} {u : Unit} :
    atMost parts vs = .ok u ↔ vs.length ≤ parts := by
  unfold atMost
  split <;> simp [*]

/-- A reader accepts exactly the values of a shape. -/
def Reads {α : Type} (read : Json → Except Refusal α) (Shape : Json → α → Prop) : Prop :=
  ∀ v a, read v = .ok a ↔ Shape v a

section

variable {α : Type} {read : Json → Except Refusal α} {Shape : Json → α → Prop}

theorem Reads.readArray (h : Reads read Shape) : Reads (readArray read) (IsArray Shape) := by
  intro v as
  cases v with
  | array vs =>
      have hshape : (fun v a => read v = .ok a) = Shape := by
        funext v a
        exact propext (h v a)
      simp [Json.readArray, IsArray, mapM_eq_ok_iff, hshape]
  | _ => simp [Json.readArray, IsArray]

theorem Reads.readIf (h : Reads read Shape) {p : Option Json} {o : Option α} :
    readIf read p = .ok o ↔ Option.Rel Shape p o := by
  cases p with
  | none => cases o <;> simp [Json.readIf]
  | some v =>
      simp only [Json.readIf, map_eq_ok_iff, h v]
      cases o <;> simp

theorem rel_some_iff {p : Option Json} {a : α} :
    Option.Rel Shape p (some a) ↔ ∃ v, p = some v ∧ Shape v a := by
  cases p <;> simp

theorem optional_iff {default : α} {p : Option Json} {a : α} :
    Optional Shape default p a ↔ ∃ o : Option α, Option.Rel Shape p o ∧ o.getD default = a := by
  constructor
  · rintro (_ | h)
    · exact ⟨none, .none, rfl⟩
    · exact ⟨some a, .some h, rfl⟩
  · rintro ⟨o, h | _, rfl⟩
    · exact .present h
    · exact .absent

end

/-! ### Features, bundles and structures -/

theorem reads_string : Reads readString fun v s => v = .string s := by
  intro v s
  cases v <;> simp [readString]

theorem reads_bool : Reads readBool IsBool := by
  intro v b
  cases v <;> simp [readBool, IsBool]

theorem reads_feature : Reads readFeature fun v f => v = ofFeature f := by
  intro v f
  rw [readFeature, bind_eq_ok_iff]
  constructor
  · rintro ⟨t, ht, hf⟩
    obtain rfl := (reads_string v t).mp ht
    by_cases hread : ∃ g : Feature, g.text = t
    · obtain ⟨g, rfl⟩ := hread
      rw [g.read_text] at hf
      cases hf
      rfl
    · rw [Feature.read_of_forall_ne (not_exists.mp hread)] at hf
      cases hf
  · rintro rfl
    refine ⟨f.text, rfl, ?_⟩
    rw [f.read_text]

theorem forall₂_ofFeature_iff {vs : List Json} {fs : List Feature} :
    List.Forall₂ (fun v f => v = ofFeature f) vs fs ↔ vs = fs.map ofFeature := by
  rw [← List.forall₂_map_right_iff, List.forall₂_eq_eq_eq]

theorem reads_bundle : Reads readBundle IsBundle := by
  intro v b
  simp only [readBundle, bind_eq_ok_iff, reads_feature.readArray v, IsArray, IsBundle,
    forall₂_ofFeature_iff]
  constructor
  · rintro ⟨fs, ⟨_, rfl, rfl⟩, hb⟩
    cases hfs : Bundle.ofFeatures fs with
    | ok c =>
        rw [hfs] at hb
        cases hb
        exact ⟨fs, rfl, Bundle.ofFeatures_eq_ok_iff.mp hfs⟩
    | error e =>
        rw [hfs] at hb
        cases hb
  · rintro ⟨fs, rfl, hlisted⟩
    refine ⟨fs, ⟨_, rfl, rfl⟩, ?_⟩
    rw [Bundle.ofFeatures_eq_ok_iff.mpr hlisted]

theorem reads_structure : Reads readStructure IsStructure := by
  intro v s
  rw [readStructure, bind_eq_ok_iff]
  simp only [reads_bundle.readArray v]
  constructor
  · rintro ⟨bs, hbs, hs⟩
    cases hs
    exact hbs
  · exact fun h => ⟨s.bundles, h, rfl⟩

/-! ### Records -/

theorem reads_item : Reads readItem IsItem := by
  intro v i
  cases v with
  | object fields =>
      simp only [readItem, bind_eq_ok_iff, reads_string.readIf, reads_structure.readIf,
        require_eq_ok_iff]
      constructor
      · rintro ⟨_, hform, _, hmeaning, form, rfl, meaning, rfl, hi⟩
        cases hi
        obtain ⟨_, hform, rfl⟩ := rel_some_iff.mp hform
        exact ⟨trivial, hform, rel_some_iff.mp hmeaning⟩
      · rintro ⟨-, hform, hmeaning⟩
        exact ⟨_, rel_some_iff.mpr ⟨_, hform, rfl⟩, _, rel_some_iff.mpr hmeaning,
          _, rfl, _, rfl, rfl⟩
  | array vs =>
      match vs with
      | [] => exact ⟨fun h => (nomatch h), fun h => (nomatch h.form)⟩
      | [form] =>
          -- The form is read, and then a meaning is missing whatever the form was.
          constructor
          · intro h
            obtain ⟨_, -, h⟩ := bind_eq_ok_iff.mp h
            cases h
          · rintro ⟨-, -, _, h, -⟩
            cases h
      | form :: meaning :: rest =>
          simp only [readItem, bind_eq_ok_iff, reads_string form, reads_structure meaning,
            atMost_eq_ok_iff]
          constructor
          · rintro ⟨_, rfl, s, hs, _, hlength, hi⟩
            cases hi
            exact ⟨hlength, rfl, _, rfl, hs⟩
          · rintro ⟨hlength, hform, _, hmeaning, hs⟩
            cases hform
            cases hmeaning
            exact ⟨_, rfl, _, hs, (), hlength, rfl⟩
  | _ => exact ⟨fun h => (nomatch h), fun h => h.record.elim⟩

theorem reads_rule : Reads readRule IsRule := by
  intro v r
  cases v with
  | object fields =>
      simp only [readRule, bind_eq_ok_iff, reads_bundle.readIf, reads_structure.readIf,
        require_eq_ok_iff]
      constructor
      · rintro ⟨_, hcontext, _, hdeleted, deleted, rfl, context, rfl, hr⟩
        cases hr
        exact ⟨trivial, rel_some_iff.mp hdeleted, rel_some_iff.mp hcontext⟩
      · rintro ⟨-, hdeleted, hcontext⟩
        exact ⟨_, rel_some_iff.mpr hcontext, _, rel_some_iff.mpr hdeleted, _, rfl, _, rfl, rfl⟩
  | array vs =>
      match vs with
      | [] => exact ⟨fun h => (nomatch h), fun ⟨_, ⟨_, h, _⟩, _⟩ => (nomatch h)⟩
      | [deleted] =>
          constructor
          · intro h
            obtain ⟨_, -, h⟩ := bind_eq_ok_iff.mp h
            cases h
          · rintro ⟨-, -, _, h, -⟩
            cases h
      | deleted :: context :: rest =>
          simp only [readRule, bind_eq_ok_iff, reads_bundle deleted, reads_structure context,
            atMost_eq_ok_iff]
          constructor
          · rintro ⟨b, hb, s, hs, _, hlength, hr⟩
            cases hr
            exact ⟨hlength, ⟨_, rfl, hb⟩, _, rfl, hs⟩
          · rintro ⟨hlength, ⟨_, hdeleted, hb⟩, _, hcontext, hs⟩
            cases hdeleted
            cases hcontext
            exact ⟨_, hb, _, hs, (), hlength, rfl⟩
  | _ => exact ⟨fun h => (nomatch h), fun h => h.record.elim⟩

theorem isGrammar_iff {v : Json} {g : Grammar} :
    IsGrammar v g ↔ v.IsRecord 6 ∧ ∃ name, v.part "name" 0 = some (.string name) ∧
      ∃ lexicon, Option.Rel (IsArray IsItem) (v.part "morphemes" 1) lexicon ∧
      ∃ rules, Option.Rel (IsArray IsRule) (v.part "rules" 2) rules ∧
      ∃ dual, Option.Rel IsBool (v.part "dual" 3) dual ∧
      ∃ inclusive, Option.Rel IsBool (v.part "inclusive" 4) inclusive ∧
      ∃ transitive, Option.Rel IsBool (v.part "transitive" 5) transitive ∧
      g = {
        name
        lexicon := lexicon.getD []
        rules := rules.getD []
        dual := dual.getD false
        inclusive := inclusive.getD false
        transitive := transitive.getD false } := by
  constructor
  · intro h
    obtain ⟨lexicon, hlexicon, hl⟩ := optional_iff.mp h.lexicon
    obtain ⟨rules, hrules, hr⟩ := optional_iff.mp h.rules
    obtain ⟨dual, hdual, hd⟩ := optional_iff.mp h.dual
    obtain ⟨inclusive, hinclusive, hi⟩ := optional_iff.mp h.inclusive
    obtain ⟨transitive, htransitive, ht⟩ := optional_iff.mp h.transitive
    exact ⟨h.record, g.name, h.name, lexicon, hlexicon, rules, hrules, dual, hdual, inclusive,
      hinclusive, transitive, htransitive, by rw [hl, hr, hd, hi, ht]⟩
  · rintro ⟨hrecord, name, hname, lexicon, hlexicon, rules, hrules, dual, hdual, inclusive,
      hinclusive, transitive, htransitive, rfl⟩
    exact {
      record := hrecord
      name := hname
      lexicon := optional_iff.mpr ⟨lexicon, hlexicon, rfl⟩
      rules := optional_iff.mpr ⟨rules, hrules, rfl⟩
      dual := optional_iff.mpr ⟨dual, hdual, rfl⟩
      inclusive := optional_iff.mpr ⟨inclusive, hinclusive, rfl⟩
      transitive := optional_iff.mpr ⟨transitive, htransitive, rfl⟩ }

theorem reads_grammar : Reads readGrammar IsGrammar := by
  intro v g
  cases v with
  | object fields =>
      -- The fields are read by their names in order, so the parts come in another order here.
      simp only [readGrammar, bind_eq_ok_iff, reads_bool.readIf, reads_string.readIf,
        reads_item.readArray.readIf, reads_rule.readArray.readIf, require_eq_ok_iff, isGrammar_iff]
      constructor
      · rintro ⟨dual, hdual, inclusive, hinclusive, lexicon, hlexicon, _, hname, rules, hrules,
          transitive, htransitive, name, rfl, hg⟩
        cases hg
        obtain ⟨_, hname, rfl⟩ := rel_some_iff.mp hname
        exact ⟨trivial, name, hname, lexicon, hlexicon, rules, hrules, dual, hdual, inclusive,
          hinclusive, transitive, htransitive, rfl⟩
      · rintro ⟨-, name, hname, lexicon, hlexicon, rules, hrules, dual, hdual, inclusive,
          hinclusive, transitive, htransitive, rfl⟩
        exact ⟨dual, hdual, inclusive, hinclusive, lexicon, hlexicon, _,
          rel_some_iff.mpr ⟨_, hname, rfl⟩, rules, hrules, transitive, htransitive, _, rfl, rfl⟩
  | array vs =>
      cases vs with
      | nil => exact ⟨fun h => (nomatch h), fun h => (nomatch h.name)⟩
      | cons n rest =>
          simp only [readGrammar, bind_eq_ok_iff, reads_bool.readIf, reads_string n,
            reads_item.readArray.readIf, reads_rule.readArray.readIf, atMost_eq_ok_iff,
            isGrammar_iff]
          constructor
          · rintro ⟨name, rfl, lexicon, hlexicon, rules, hrules, dual, hdual, inclusive,
              hinclusive, transitive, htransitive, _, hlength, hg⟩
            cases hg
            exact ⟨hlength, name, rfl, lexicon, hlexicon, rules, hrules, dual, hdual, inclusive,
              hinclusive, transitive, htransitive, rfl⟩
          · rintro ⟨hlength, name, hname, lexicon, hlexicon, rules, hrules, dual, hdual, inclusive,
              hinclusive, transitive, htransitive, rfl⟩
            cases hname
            exact ⟨name, rfl, lexicon, hlexicon, rules, hrules, dual, hdual, inclusive,
              hinclusive, transitive, htransitive, (), hlength, rfl⟩
  | _ => exact ⟨fun h => (nomatch h), fun h => h.record.elim⟩

end Agreement.Json
