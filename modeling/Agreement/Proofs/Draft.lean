import Agreement.Grammar.Draft
import Agreement.Proofs.Logged
import Agreement.Proofs.Notation

/-!
# Grammars put together step by step

What a draft comes to can be read off its steps: the items and rules of those that read, the last
value of each switch, and the first failure. A grammar can therefore be finished in between and
taken up again, and to extend it is to push the rules one by one. From its own notation a grammar is
put together as it was.
-/

namespace Agreement

def error? {α ε : Type} : Except ε α → Option ε
  | .ok _ => none
  | .error e => some e

/-! ## Steps -/

namespace Step

/-- Why the notation of a step does not read. Of a rule the deletion counts before the context. -/
@[simp]
def failure? : Step → Option InputError
  | .morpheme _ meaning => error? (Structure.read meaning)
  | .rule deleted context => (error? (Bundle.read deleted)).or (error? (Structure.read context))
  | _ => none

/-- The item that a step adds; none, if its notation does not read. -/
@[simp]
def item? : Step → Option Item
  | .morpheme form meaning => (Structure.read meaning).toOption.map fun m => ⟨form, m⟩
  | .pushItem i => some i
  | _ => none

/-- The rule that a step adds; none, unless both parts of its notation read. -/
@[simp]
def rule? : Step → Option Rule
  | .rule deleted context =>
      (Bundle.read deleted).toOption.bind fun b =>
        (Structure.read context).toOption.map fun c => ⟨b, c⟩
  | .pushRule r => some r
  | _ => none

@[simp]
def dual? : Step → Option Bool
  | .dual value => some value
  | _ => none

@[simp]
def inclusive? : Step → Option Bool
  | .inclusive value => some value
  | _ => none

@[simp]
def transitive? : Step → Option Bool
  | .transitive value => some value
  | _ => none

end Step

namespace Grammar

/-- The grammar with the items and rules of the steps after its own, and with each switch as it was
set last. -/
def after (g : Grammar) (steps : List Step) : Grammar where
  name := g.name
  lexicon := g.lexicon ++ steps.filterMap Step.item?
  rules := g.rules ++ steps.filterMap Step.rule?
  dual := (steps.filterMap Step.dual?).getLast?.getD g.dual
  inclusive := (steps.filterMap Step.inclusive?).getLast?.getD g.inclusive
  transitive := (steps.filterMap Step.transitive?).getLast?.getD g.transitive

theorem after_nil (g : Grammar) : g.after [] = g := by
  simp [after]

theorem after_append (g : Grammar) (xs ys : List Step) :
    g.after (xs ++ ys) = (g.after xs).after ys := by
  simp [after, List.filterMap_append, List.getLast?_append, Option.getD_or]

theorem after_pushRules (g : Grammar) (rules : List Rule) :
    g.after (rules.map .pushRule) = g.extend rules := by
  have hrules : (rules.map Step.pushRule).filterMap Step.rule? = rules := by
    rw [List.filterMap_map]
    exact List.filterMap_some
  have hnone : ∀ {α : Type} (f : Step → Option α), (∀ r, f (.pushRule r) = none) →
      (rules.map Step.pushRule).filterMap f = [] := by
    intro α f hf
    rw [List.filterMap_map]
    exact List.filterMap_eq_nil_iff.mpr fun r _ => hf r
  rw [after, hrules, hnone Step.item? fun _ => rfl, hnone Step.dual? fun _ => rfl,
    hnone Step.inclusive? fun _ => rfl, hnone Step.transitive? fun _ => rfl, List.append_nil]
  rfl

end Grammar

/-! ## Drafts -/

namespace Draft

/-- One step: it adds what it reads and fails as it does not read, whatever failed before it. -/
theorem take_eq (d : Draft) (x : Step) :
    d.take x = ⟨d.grammar.after [x], d.failure.or x.failure?⟩ := by
  obtain ⟨⟨name, lexicon, rules, dual, inclusive, transitive⟩, failure⟩ := d
  cases x with
  | morpheme form meaning =>
      rw [take, morpheme]
      cases h : Structure.read meaning with
      | ok m => simp [pushItem, Grammar.after, error?, Except.toOption, h]
      | error e => simp [fail, Grammar.after, error?, Except.toOption, h]
  | rule deleted context =>
      rw [take, rule]
      cases h : Bundle.read deleted with
      | error e => simp [fail, Grammar.after, error?, Except.toOption, h]
      | ok b =>
          cases h' : Structure.read context with
          | ok c => simp [pushRule, Grammar.after, error?, Except.toOption, h, h']
          | error e => simp [fail, Grammar.after, error?, Except.toOption, h, h']
  | _ => simp [take, pushItem, pushRule, Grammar.after]

theorem takeAll_append (d : Draft) (xs ys : List Step) :
    d.takeAll (xs ++ ys) = (d.takeAll xs).takeAll ys :=
  List.foldl_append

/-- All steps: what they add adds up, and of their failures the first one stays. -/
theorem takeAll_eq (d : Draft) (steps : List Step) :
    d.takeAll steps = ⟨d.grammar.after steps, d.failure.or (steps.findSome? Step.failure?)⟩ := by
  induction steps generalizing d with
  | nil => simp [takeAll, Grammar.after_nil]
  | cons x steps ih =>
      have htail : d.takeAll (x :: steps) = (d.take x).takeAll steps := rfl
      have hgrammar := d.grammar.after_append [x] steps
      have hfailure : (x :: steps).findSome? Step.failure? =
          x.failure?.or (steps.findSome? Step.failure?) := by
        rw [List.findSome?_cons]
        cases x.failure? <;> rfl
      rw [htail, ih, take_eq, hfailure, ← Option.or_assoc, ← hgrammar]
      rfl

theorem build_value {d : Draft} (h : d.failure = none) : d.build.value = .ok d.grammar := by
  rw [build, h]
  rfl

theorem build_of_failure {d : Draft} {e : InputError} (h : d.failure = some e) :
    d.build = pure (.error e) := by
  rw [build, h]

end Draft

namespace Grammar

variable (g : Grammar) (steps : List Step)

/-- The grammar taken up again and put through more steps. -/
def revise : Logged (Except InputError Grammar) :=
  ((Draft.ofGrammar g).takeAll steps).build

theorem takeAll_ofGrammar :
    (Draft.ofGrammar g).takeAll steps = ⟨g.after steps, steps.findSome? Step.failure?⟩ := by
  rw [Draft.takeAll_eq]
  rfl

variable {g steps}

theorem revise_of_failure {e : InputError} (h : steps.findSome? Step.failure? = some e) :
    g.revise steps = pure (.error e) := by
  rw [revise, takeAll_ofGrammar]
  exact Draft.build_of_failure h

theorem revise_value (h : steps.findSome? Step.failure? = none) :
    (g.revise steps).value = .ok (g.after steps) := by
  rw [revise, takeAll_ofGrammar]
  exact Draft.build_value h

theorem revise_eq_error_iff {e : InputError} :
    (g.revise steps).value = .error e ↔ steps.findSome? Step.failure? = some e := by
  cases h : steps.findSome? Step.failure? with
  | none => simp [revise_value h]
  | some e' => simp [revise_of_failure h]

theorem revise_eq_ok_iff {h : Grammar} :
    (g.revise steps).value = .ok h ↔
      steps.findSome? Step.failure? = none ∧ h = g.after steps := by
  cases hf : steps.findSome? Step.failure? with
  | none => simp [revise_value hf, eq_comm]
  | some e' => simp [revise_of_failure hf]

/-- A grammar is finished from steps exactly if the notation of each of them reads, and has then what
its seed and the steps have, in their order. Otherwise the first step that does not read says what
is wrong, and nothing is reported. It makes no difference if the grammar is finished in between and
taken up again. To extend a grammar is to push the rules, and to start from a name is to take up the
grammar that has nothing else. -/
theorem revise_keeps_first_failure (g : Grammar) (xs ys : List Step) (rules : List Rule)
    (name : String) :
    (∀ e, (g.revise xs).value = .error e ↔
      ∃ before x later, xs = before ++ x :: later ∧ (∀ y ∈ before, y.failure? = none) ∧
        x.failure? = some e) ∧
    (∀ e, (g.revise xs).value = .error e → (g.revise xs).events = []) ∧
    (∀ h, (g.revise xs).value = .ok h ↔ (∀ x ∈ xs, x.failure? = none) ∧ h = g.after xs) ∧
    (∀ e, (g.revise xs).value = .error e → g.revise (xs ++ ys) = pure (.error e)) ∧
    (∀ h, (g.revise xs).value = .ok h → g.revise (xs ++ ys) = h.revise ys) ∧
    (g.revise (rules.map .pushRule)).value = .ok (g.extend rules) ∧
    ((Draft.named name).takeAll xs).build = revise { name } xs := by
  refine ⟨fun e => ?_, fun e he => ?_, fun h => ?_, fun e he => ?_, fun h hh => ?_, ?_, rfl⟩
  · rw [revise_eq_error_iff, List.findSome?_eq_some_iff]
    constructor
    · rintro ⟨before, x, later, rfl, hx, hbefore⟩
      exact ⟨before, x, later, rfl, hbefore, hx⟩
    · rintro ⟨before, x, later, rfl, hbefore, hx⟩
      exact ⟨before, x, later, rfl, hx, hbefore⟩
  · rw [revise_of_failure (revise_eq_error_iff.mp he)]
    rfl
  · rw [revise_eq_ok_iff, List.findSome?_eq_none_iff]
  · refine revise_of_failure ?_
    rw [List.findSome?_append, revise_eq_error_iff.mp he]
    rfl
  · -- The draft after the first steps is that of the grammar that they finish.
    obtain ⟨hnone, rfl⟩ := revise_eq_ok_iff.mp hh
    have hdraft : (Draft.ofGrammar g).takeAll xs = Draft.ofGrammar (g.after xs) := by
      rw [takeAll_ofGrammar, hnone]
      rfl
    rw [revise, Draft.takeAll_append, hdraft]
    rfl
  · have hnone : (rules.map Step.pushRule).findSome? Step.failure? = none := by
      rw [List.findSome?_eq_none_iff, List.forall_mem_map]
      exact fun r _ => rfl
    rw [revise_value hnone, after_pushRules]

end Grammar

/-! ## Notation -/

namespace Draft

theorem take_morpheme_text (d : Draft) (i : Item) :
    d.take (.morpheme i.form i.meaning.text) = d.pushItem i := by
  rw [take, morpheme, i.meaning.read_text]

theorem take_rule_text (d : Draft) (r : Rule) :
    d.take (.rule r.deleted.text r.context.text) = d.pushRule r := by
  rw [take, rule, r.deleted.read_text, r.context.read_text]

theorem takeAll_morphemes (d : Draft) (items : List Item) :
    d.takeAll (items.map fun i => .morpheme i.form i.meaning.text) =
      { d with grammar.lexicon := d.grammar.lexicon ++ items } := by
  induction items generalizing d with
  | nil => simp [takeAll]
  | cons i items ih =>
      rw [List.map_cons, takeAll, List.foldl_cons, take_morpheme_text, ← takeAll, ih]
      simp [pushItem]

theorem takeAll_rules (d : Draft) (rules : List Rule) :
    d.takeAll (rules.map fun r => .rule r.deleted.text r.context.text) =
      { d with grammar.rules := d.grammar.rules ++ rules } := by
  induction rules generalizing d with
  | nil => simp [takeAll]
  | cons r rules ih =>
      rw [List.map_cons, takeAll, List.foldl_cons, take_rule_text, ← takeAll, ih]
      simp [pushRule]

/-- The three switches may be set in any order. -/
theorem takeAll_switches (d : Draft) {steps : List Step} {dual inclusive transitive : Bool}
    (hsteps : steps.Perm [.dual dual, .inclusive inclusive, .transitive transitive]) :
    d.takeAll steps =
      { d with
        grammar.dual := dual
        grammar.inclusive := inclusive
        grammar.transitive := transitive } := by
  -- Each switch sets a field of its own, so setting them commutes.
  have hcomm : ∀ x ∈ [Step.dual dual, .inclusive inclusive, .transitive transitive],
      ∀ y ∈ [Step.dual dual, .inclusive inclusive, .transitive transitive],
      ∀ d : Draft, (d.take x).take y = (d.take y).take x := by
    simp [take]
  exact (hsteps.symm.foldl_eq' hcomm d).symm

/-- More rules extend a grammar. -/
theorem takeAll_ofGrammar_rules {g h : Grammar} {rules : List Rule} (hrules : h = g.extend rules) :
    (ofGrammar g).takeAll (rules.map fun r => .rule r.deleted.text r.context.text) =
      ofGrammar h := by
  rw [takeAll_rules, hrules]
  rfl

end Draft

/-- The steps that add the items and the rules of a grammar, in notation. -/
def Grammar.steps (g : Grammar) : List Step :=
  g.lexicon.map (fun i => .morpheme i.form i.meaning.text) ++
    g.rules.map (fun r => .rule r.deleted.text r.context.text)

/-- A grammar comes from its name, its switches, and its items and rules in notation. -/
theorem Draft.takeAll_steps {g : Grammar} {switches : List Step}
    (hswitches : (named g.name).takeAll switches = ofGrammar { g with lexicon := [], rules := [] }) :
    (named g.name).takeAll (switches ++ g.steps) = ofGrammar g := by
  rw [takeAll_append, hswitches, Grammar.steps, takeAll_append, takeAll_morphemes, takeAll_rules]
  rfl

end Agreement
