import Agreement.Catalogue
import Agreement.Proofs.Draft

/-!
# The grammars of the catalogue

The grammars feature by feature, as they come out of the notation that they are put together from.
All of it reads, so there is always a catalogue, and the only key that is refused is an unknown one.
-/

namespace Agreement.Catalogue

open Feature (plus minus)

/-! ## Notation -/

def nom : Feature := .case .nominative

def acc : Feature := .case .accusative

def erg : Feature := .case .ergative

def abs : Feature := .case .absolutive

/-- A vocabulary item whose meaning is given by lists of features. -/
def item (form : String) (meaning : List (List Feature)) : Item :=
  ⟨form, ⟨meaning.map .of⟩⟩

/-- A rule whose deletion and context are given by lists of features. -/
def rule (deleted : List Feature) (context : List (List Feature)) : Rule :=
  ⟨.of deleted, ⟨context.map .of⟩⟩

/-! ## Grammars -/

def ainu : Grammar where
  name := "Ainu"
  transitive := true
  lexicon := [
    item "en-" [[acc, plus .person1, minus .plural]],
    item "un-" [[acc, plus .person1, plus .plural]],
    item "eci-" [[plus .person2, plus .plural]],
    item "e-" [[plus .person2, minus .plural], [plus .person3]],
    item "ku-" [[nom, plus .person1, minus .plural], [plus .person3]],
    item "ci-" [[nom, plus .person1, plus .plural], [acc, plus .person3]],
    item "-as" [[nom, plus .person1, plus .plural, plus .intransitive]]]
  rules := [
    rule [plus .plural] [[nom, plus .person1], [acc, plus .person2, minus .plural]],
    rule [plus .person3] [[nom, minus .person3, minus .plural, plus .intransitive]]]

/-- Karuk, positive. -/
def karuk : Grammar where
  name := "Karuk"
  transitive := true
  lexicon := [
    item "-ap" [[acc, plus .person2, plus .plural]]]
  rules := [
    rule [plus .plural] [[nom, plus .person3], [acc, plus .person2]]]

/-- Karuk, negative: two more generalisations of `-ap`. -/
def karukNegative : Grammar :=
  karuk.extend [
    rule [acc, plus .person2] [[nom, minus .person1], [minus .person3, plus .plural]],
    rule [acc, plus .person2] [[nom, plus .person3]]]

/-- Kulung without rules, with the ranges that its items predict by themselves. -/
def kulungPredicted : Grammar where
  name := "Kulung"
  transitive := true
  dual := true
  inclusive := true
  lexicon := [
    item "-o" [[abs, plus .person1, plus .singular]],
    item "-na" [[erg, plus .person1, plus .singular],
      [abs, minus .person1, plus .person2, minus .plural]],
    item "-n" [[abs, minus .person1, plus .person2, plus .plural]],
    item "-c" [[abs, minus .person3, minus .singular, minus .plural]],
    item "-i" [[abs, minus .person3, minus .singular]],
    item "-u" [[erg, minus .person3, minus .singular], [abs, plus .person3]],
    item "-am" [[erg, minus .person3, plus .plural], [abs, plus .person3]],
    item "-ka" [[abs, plus .person1, minus .person2, minus .singular]]]

/-- Kulung with its rules. -/
def kulung : Grammar :=
  kulungPredicted.extend [
    rule [abs] [[abs, plus .person1, plus .singular]],
    rule [abs] [[abs, plus .person3]],
    rule [minus .person3] [[erg, plus .person3], [abs, plus .person3]],
    rule [minus .person3] [[erg, plus .singular], [abs, plus .person3]],
    rule [minus .plural] [[erg, plus .person3], [abs, plus .person3]],
    rule [minus .plural] [[erg, plus .singular], [abs, plus .person3]]]

def limbu : Grammar where
  name := "Limbu"
  transitive := true
  dual := true
  inclusive := true
  lexicon := [
    item "a-" [[abs, plus .person1], [plus .person2], [minus .singular]]]
  rules := [
    rule [abs] [[abs, plus .person3]]]

/-! ## Entries -/

/-- All entries, in the order in which they are listed. -/
def entries : List Entry := [
  ⟨"ainu", "Verb agreement in Ainu (isolate; Japan)", .accusative, ainu⟩,
  ⟨"karuk", "Verb agreement in Karuk (Hokan; USA), positive indicative", .accusative, karuk⟩,
  ⟨"karuk-negative", "Verb agreement in Karuk (Hokan; USA), negative", .accusative, karukNegative⟩,
  ⟨"kulung-predicted", "Verb agreement in Kulung (Tibeto-Burman; Nepal), predicted ranges",
    .ergative, kulungPredicted⟩,
  ⟨"kulung", "Verb agreement in Kulung (Tibeto-Burman; Nepal), actual ranges", .ergative, kulung⟩,
  ⟨"limbu", "Verb agreement in Limbu (Tibeto-Burman; Bhutan, India, Nepal)", .ergative, limbu⟩]

/-! ## Building -/

theorem run_value_bind {α β : Type} {x : Building α} {f : α → Building β} {a : α}
    (h : x.run.value = .ok a) : (x >>= f).run.value = (f a).run.value := by
  rw [ExceptT.run_bind, Logged.value_bind, h]

theorem run_value_build {d : Draft} {g : Grammar} (h : d = .ofGrammar g) :
    (ExceptT.run d.build : Logged (Except InputError Grammar)).value = .ok g := by
  rw [h]
  rfl

/-- What is built from switches and the notation of a grammar is that grammar. -/
theorem run_value_of_steps {x : Building Grammar} {g : Grammar} (switches : List Step)
    (hx : x = ((Draft.named g.name).takeAll (switches ++ g.steps)).build)
    (hswitches : (Draft.named g.name).takeAll switches =
      .ofGrammar { g with lexicon := [], rules := [] }) : x.run.value = .ok g := by
  rw [hx]
  exact run_value_build (Draft.takeAll_steps hswitches)

theorem buildAinu_value : buildAinu.run.value = .ok ainu :=
  run_value_of_steps [.transitive true] rfl rfl

theorem buildKaruk_value : buildKaruk.run.value = .ok karuk :=
  run_value_of_steps [.transitive true] rfl rfl

theorem buildKarukNegative_value : buildKarukNegative.run.value = .ok karukNegative := by
  have hrules := Draft.takeAll_ofGrammar_rules (h := karukNegative) rfl
  rw [buildKarukNegative, run_value_bind buildKaruk_value]
  exact run_value_build hrules

theorem kulungDraft_eq : kulungDraft = .ofGrammar kulungPredicted := by
  have hdraft : kulungDraft = (Draft.named kulungPredicted.name).takeAll
      ([.transitive true, .dual true, .inclusive true] ++ kulungPredicted.steps) := rfl
  rw [hdraft, Draft.takeAll_steps rfl]

theorem buildKulungPredicted_value : buildKulungPredicted.run.value = .ok kulungPredicted :=
  run_value_build kulungDraft_eq

theorem buildKulung_value : buildKulung.run.value = .ok kulung := by
  have hrules := Draft.takeAll_ofGrammar_rules (h := kulung) rfl
  rw [buildKulung, kulungDraft_eq]
  exact run_value_build hrules

theorem buildLimbu_value : buildLimbu.run.value = .ok limbu :=
  run_value_of_steps [.transitive true, .dual true, .inclusive true] rfl rfl

theorem load_value : load.run.value = .ok entries := by
  rw [load, run_value_bind buildAinu_value, run_value_bind buildKaruk_value,
    run_value_bind buildKarukNegative_value, run_value_bind buildKulungPredicted_value,
    run_value_bind buildKulung_value, run_value_bind buildLimbu_value]
  rfl

/-! ## Looking up -/

theorem keys_nodup : (entries.map Entry.key).Nodup := by
  decide

theorem eq_of_key_eq {entry entry' : Entry} (h : entry ∈ entries) (h' : entry' ∈ entries)
    (hkey : entry.key = entry'.key) : entry = entry' :=
  List.inj_on_of_nodup_map keys_nodup h h' hkey

theorem find_of_mem {entry : Entry} (h : entry ∈ entries) :
    (find entry.key).run.value = .ok entry := by
  rw [find, run_value_bind load_value]
  cases hfound : entries.find? (·.key == entry.key) with
  | none => exact absurd (beq_self_eq_true entry.key) (List.find?_eq_none.mp hfound entry h)
  | some found =>
      have hkey : found.key = entry.key := by simpa using List.find?_some hfound
      rw [eq_of_key_eq (List.mem_of_find?_eq_some hfound) h hkey]
      rfl

/-- Nothing but its key can be wrong with an entry that is looked up. -/
theorem find_of_not_mem {key : String} (h : key ∉ entries.map Entry.key) :
    (find key).run.value = .error (.unknownLanguage key) := by
  have hnone : entries.find? (·.key == key) = none := by
    rw [List.find?_eq_none]
    intro entry hentry hkey
    exact h (List.mem_map.mpr ⟨entry, hentry, beq_iff_eq.mp hkey⟩)
  rw [find, run_value_bind load_value, hnone]
  rfl

end Agreement.Catalogue
