import Agreement.Proofs.Realisation

/-!
# Observed realisations

An observer is told of every stage of a realisation once and in order, and has no say in what is
inserted. Of two observers side by side neither notices the other one, and it makes no difference to
an observer if its state is kept at some place in a larger state.
-/

namespace Agreement

/-- A place in a larger state: what is put there is found there, and all else stays. -/
structure Place (σ τ : Type) where
  get : τ → σ
  put : σ → τ → τ
  get_put (s : σ) (t : τ) : get (put s t) = s
  put_put (s s' : σ) (t : τ) : put s (put s' t) = put s t
  put_get (t : τ) : put (get t) t = t

variable {σ τ : Type}

def Place.whole (σ : Type) : Place σ σ where
  get := id
  put s _ := s
  get_put _ _ := rfl
  put_put _ _ _ := rfl
  put_get _ := rfl

/-- To watch through the whole of a state is to watch. -/
theorem Observer.through_whole (o : Observer σ) :
    o.through (Place.whole σ).get (Place.whole σ).put = o := by
  simp only [through, Place.whole, id, bind_pure]

theorem Observer.tell_through (o : Observer σ) (p : Place σ τ) (s : σ) (t : τ) (stage : Stage) :
    (o.through p.get p.put).tell (p.put s t) stage = (fun s => p.put s t) <$> o.tell s stage := by
  cases stage <;>
    simp only [tell, through, p.get_put, p.put_put, map_eq_pure_bind]

section

variable {o : Observer σ} {o' : Observer τ} {f : σ → τ}

/-- If each callback of one observer does what another one does to the states behind its own, so do
all rules together. -/
theorem applyRules_map (h : ∀ s stage, o'.tell (f s) stage = f <$> o.tell s stage)
    (cell : Structure) (index : Nat) (rules : List Rule) (items : List Item) (s : σ) :
    applyRules o' cell index rules items (f s) =
      Prod.map id f <$> applyRules o cell index rules items s := by
  induction rules generalizing index items s with
  | nil => rfl
  | cons r rules ih =>
      have hrule : ∀ fired, o'.rule index r fired (f s) = f <$> o.rule index r fired s :=
        fun fired => h s (.rule index r fired)
      rw [applyRules, applyRules]
      split
      · simp only [hrule, bind_map_left, map_bind, ih]
      · simp only [hrule, bind_map_left, map_bind, ih]

theorem Grammar.realiseWith_map (h : ∀ s stage, o'.tell (f s) stage = f <$> o.tell s stage)
    (g : Grammar) (cell : Structure) (s : σ) :
    g.realiseWith cell o' (f s) = Prod.map id f <$> g.realiseWith cell o s := by
  have hcell : ∀ s, o'.cell cell (f s) = f <$> o.cell cell s := fun s => h s (.cell cell)
  have hcopied : ∀ s, o'.copied g.lexicon (f s) = f <$> o.copied g.lexicon s :=
    fun s => h s (.copied g.lexicon)
  have hgeneralised : ∀ items s, o'.generalised items (f s) = f <$> o.generalised items s :=
    fun items s => h s (.generalised items)
  have hmatched : ∀ items s, o'.matched items (f s) = f <$> o.matched items s :=
    fun items s => h s (.matched items)
  simp only [realiseWith, hcell, hcopied, applyRules_map h, hgeneralised, hmatched, bind_map_left,
    map_bind, map_pure, Prod.map, id]

end

namespace Grammar

/-- Of two observers side by side the first sees of a derivation what it sees alone. -/
theorem derive_both (g : Grammar) (alignment : Alignment) (cell : String) (a : Observer σ)
    (b : Observer τ) (s : σ) (t : τ) :
    ∃ t', (g.derive alignment cell (a.both b) (s, t)).value =
      ((g.derive alignment cell a s).value.1, (g.derive alignment cell a s).value.2, t') := by
  unfold derive
  cases Structure.readCell alignment cell with
  | error e => exact ⟨t, rfl⟩
  | ok c =>
      refine ⟨b.after (g.stages c) t, ?_⟩
      simp only [Logged.value_bind, Logged.value_pure, realiseWith_value, Observer.both_after]

/-- The items after all rules, each rule applied in its turn if the cell satisfies its context. -/
def afterRules (g : Grammar) (cell : Structure) : List Item :=
  g.rules.foldl (fun items r => if cell.satisfies r.context then r.apply items else items) g.lexicon

theorem afterRules_eq (g : Grammar) (cell : Structure) : g.afterRules cell = g.generalised cell :=
  foldl_applyIn cell g.rules g.lexicon

/-- Whoever watches, the same items are inserted, and the observer ends in the state to which its
own callbacks lead, each stage being told once and in order. Beside another observer it ends where
it ends alone. Kept at a place in a larger state, it does and reports the same there, and nothing
else of that state is touched; if the place is the whole state, nothing is different at all. -/
theorem realiseWith_tells_every_stage (g : Grammar) (cell : Structure) :
    ∃ found, (g.realise cell).value = found ∧
      (∀ (σ : Type) (o : Observer σ) (s : σ),
        (g.realiseWith cell o s).value =
          (found,
            o.after
              ([.cell cell, .copied g.lexicon] ++
                g.rules.mapIdx (fun i r => .rule i r (cell.satisfies r.context)) ++
                [.generalised (g.afterRules cell), .matched found]) s)) ∧
      (∀ (σ τ : Type) (a : Observer σ) (b : Observer τ) (s : σ) (t : τ),
        (g.realiseWith cell (a.both b) (s, t)).value =
          (found, (g.realiseWith cell a s).value.2, (g.realiseWith cell b t).value.2)) ∧
      (∀ (σ τ : Type) (o : Observer σ) (p : Place σ τ) (t : τ),
        g.realiseWith cell (o.through p.get p.put) t =
          (fun (items, s) => (items, p.put s t)) <$> g.realiseWith cell o (p.get t)) ∧
      (∀ (σ : Type) (o : Observer σ) (s : σ),
        g.realiseWith cell (o.through (Place.whole σ).get (Place.whole σ).put) s =
          g.realiseWith cell o s) := by
  refine ⟨g.inserted cell, g.realise_value cell, ?_, ?_, ?_, ?_⟩
  · intro σ o s
    have hrules : g.rules.mapIdx (fun i r => Stage.rule i r (cell.satisfies r.context)) =
        ruleStages cell 0 g.rules := List.mapIdx_eq_zipIdx_map
    rw [realiseWith_value, stages, hrules, afterRules_eq]
  · intro σ τ a b s t
    simp only [realiseWith_value, Observer.both_after]
  · intro σ τ o p t
    have hput := realiseWith_map (fun s stage => o.tell_through p s t stage) g cell (p.get t)
    rw [p.put_get] at hput
    exact hput
  · intro σ o s
    rw [o.through_whole]

end Grammar

end Agreement
