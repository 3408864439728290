import Agreement.Proofs.Terminal

/-!
# Sessions

One transcript can follow many derivations, one after another. Each cell that is realised has an
account of its own, the same as if it were the only one, and four pauses; whether somebody waits at
the pauses shows in what is left of the input and nowhere else. A cell string that does not read
leaves no trace.
-/

namespace Agreement

/-! ## Pauses -/

/-- There is a pause after every stage but the tests of the rules. -/
def Stage.pauses : Stage → Bool
  | rule .. => false
  | _ => true

theorem Script.count_pause_list (items : List Item) : (Script.list items).count .pause = 0 := by
  rw [List.count_eq_zero, Script.list, List.mem_mapIdx]
  rintro ⟨index, h, hpause⟩
  cases hpause

theorem Script.count_pause_heading (announced : Bool) :
    (Script.heading announced).count .pause = 0 := by
  cases announced <;> rfl

theorem Stage.count_pause_script (announced : Bool) (stage : Stage) :
    (stage.script announced).count .pause = if stage.pauses then 1 else 0 := by
  cases stage with
  | cell c => rfl
  | copied items =>
      simp [script, Script.copied, Script.line, Script.count_pause_list, pauses]
  | rule index r fired =>
      simp [script, Script.rule, Script.entry, Script.line, Script.count_pause_heading, pauses]
  | generalised items =>
      simp [script, Script.generalised, Script.line, Script.count_pause_heading,
        Script.count_pause_list, pauses]
  | matched items =>
      simp [script, Script.matched, Script.line, Script.count_pause_list, pauses]

theorem Stage.count_pause_scripts (announced : Bool) (stages : List Stage) :
    (scripts announced stages).count .pause = stages.countP pauses := by
  induction stages generalizing announced with
  | nil => rfl
  | cons stage stages ih =>
      rw [scripts, List.count_append, count_pause_script, ih, List.countP_cons, Nat.add_comm]

theorem countP_pauses_ruleStages (cell : Structure) (index : Nat) (rules : List Rule) :
    (ruleStages cell index rules).countP Stage.pauses = 0 := by
  induction rules generalizing index with
  | nil => rfl
  | cons r rules ih => rw [ruleStages_cons, List.countP_cons_of_neg Bool.false_ne_true, ih]

/-- Four pauses for each cell, however many rules there are. -/
theorem Grammar.count_pause_script (g : Grammar) (cell : Structure) :
    (g.script cell).count .pause = 4 := by
  rw [script_eq, Stage.count_pause_scripts, stages, List.countP_append, List.countP_append,
    countP_pauses_ruleStages]
  rfl

theorem Script.count_readLine_requests (stepping : Bool) (script : List Action) :
    (Script.requests stepping script).count .readLine =
      if stepping then script.count .pause else 0 := by
  induction script with
  | nil => cases stepping <;> rfl
  | cons a script ih =>
      rw [Script.requests, List.flatMap_cons, ← Script.requests, List.count_append, ih]
      cases a with
      | write text =>
          have hbytes : ((utf8Bytes text).map Request.accept).count .readLine = 0 := by
            simp [List.count_eq_zero]
          rw [Action.requests, hbytes, Nat.zero_add, List.count_cons_of_ne (by simp)]
      | pause =>
          cases stepping with
          | true => simp [Action.requests, Nat.add_comm]
          | false => simp [Action.requests]

/-! ## Derivations -/

/-- A cell string to be derived in a grammar. -/
structure Derivation where
  grammar : Grammar
  alignment : Alignment
  cell : String

namespace Derivation

variable {σ : Type}

def run (o : Observer σ) (q : Derivation) (s : σ) :
    Logged (Except InputError (List Item) × σ) :=
  q.grammar.derive q.alignment q.cell o s

/-- One derivation after another, all followed by the same observer. -/
def runAll (o : Observer σ) :
    List Derivation → σ → Logged (List (Except InputError (List Item)) × σ)
  | [], s => pure ([], s)
  | q :: qs, s => do
      let (result, s) ← q.run o s
      let (results, s) ← runAll o qs s
      pure (result :: results, s)

def reads (q : Derivation) : Bool :=
  (Structure.readCell q.alignment q.cell).isOk

/-- The script of the cell, if the cell string reads. -/
def script (q : Derivation) : List Action :=
  match Structure.readCell q.alignment q.cell with
  | .ok cell => q.grammar.script cell
  | .error _ => []

/-- What a transcript of its own writes of the derivation, waiting for nobody. -/
def transcript (q : Derivation) : List UInt8 :=
  (q.run (Transcript.observer Terminal.device false) { device := {} }).value.2.device.written

theorem run_of_not_reads {q : Derivation} (h : q.reads = false) (o : Observer σ) (s : σ) :
    (q.run o s).value.2 = s := by
  unfold reads at h
  unfold run Grammar.derive
  cases hcell : Structure.readCell q.alignment q.cell with
  | error e => rfl
  | ok cell =>
      rw [hcell] at h
      cases h

theorem run_result (q : Derivation) (o : Observer σ) (s : σ) :
    (q.run o s).value.1 = (q.run .silent ()).value.1 := by
  rw [run, run, Grammar.derive_value, Grammar.derive_value]

theorem count_pause_script (q : Derivation) :
    q.script.count .pause = if q.reads then 4 else 0 := by
  unfold script reads
  cases Structure.readCell q.alignment q.cell with
  | error e => rfl
  | ok cell => exact q.grammar.count_pause_script cell

end Derivation

/-! ## Transcripts at a terminal without limits -/

/-- The cell comes first and starts anew, whatever was announced before. -/
theorem Grammar.scripts_stages (g : Grammar) (cell : Structure) (announced : Bool) :
    Stage.scripts announced (g.stages cell) = g.script cell := by
  rw [script_eq]
  rfl

theorem Grammar.announces_stages (g : Grammar) (cell : Structure) (announced : Bool) :
    (g.stages cell).foldl Stage.announces announced = true := by
  rw [stages, List.foldl_append]
  rfl

/-- A transcript that has written some bytes, with a text left to be read. -/
def Transcript.onText (written : List UInt8) (s : List Char) (announced : Bool) :
    Transcript Terminal Terminal.Fault :=
  { device := .ofText written s, announced }

theorem Transcript.play_onText (stepping : Bool) (written : List UInt8) (s : List Char)
    (announced : Bool) (script : List Action) :
    play Terminal.device stepping (onText written s announced) script =
      onText (written ++ Script.bytes script)
        (Text.afterLine^[if stepping then script.count .pause else 0] s) announced := by
  rw [play_eq, foldl_ask _ rfl]
  simp only [onText, Terminal.askAll_ofText, Call.firstFault?_granted, Script.filterMap_requests,
    Script.count_readLine_requests]

theorem Transcript.finish_onText (written : List UInt8) (s : List Char) (announced : Bool) :
    (onText written s announced).finish Terminal.device = (.ok (), .ofText written s) := rfl

namespace Derivation

/-- One derivation: its script is written, and a line is taken at each of its pauses. -/
theorem run_onText (stepping : Bool) (q : Derivation) (written : List UInt8) (s : List Char)
    (announced : Bool) :
    (q.run (Transcript.observer Terminal.device stepping)
        (.onText written s announced)).value.2 =
      .onText (written ++ Script.bytes q.script)
        (Text.afterLine^[if stepping then q.script.count .pause else 0] s)
        (q.reads || announced) := by
  unfold run Grammar.derive script reads
  cases Structure.readCell q.alignment q.cell with
  | error e => cases stepping <;> simp [Script.bytes, Except.isOk, Except.toBool]
  | ok cell =>
      simp only [Logged.value_bind, Logged.value_pure, Grammar.realiseWith_value,
        Transcript.after_eq, Grammar.scripts_stages, Grammar.announces_stages,
        Transcript.play_onText]
      rfl

/-- All derivations: their scripts stand one after another, as if they were one. -/
theorem runAll_onText (stepping : Bool) (qs : List Derivation) (written : List UInt8)
    (s : List Char) (announced : Bool) :
    (runAll (Transcript.observer Terminal.device stepping) qs
        (.onText written s announced)).value =
      (qs.map fun q => (q.run .silent ()).value.1,
        .onText (written ++ Script.bytes (qs.flatMap script))
          (Text.afterLine^[if stepping then (qs.flatMap script).count .pause else 0] s)
          (qs.any reads || announced)) := by
  induction qs generalizing written s announced with
  | nil => cases stepping <;> simp [runAll, Script.bytes]
  | cons q qs ih =>
      rw [runAll]
      simp only [Logged.value_bind, Logged.value_pure, run_onText, run_result, ih]
      cases stepping <;> simp [← Function.iterate_add_apply, Script.bytes, Nat.add_comm,
        Bool.or_left_comm, Bool.or_assoc]

theorem transcript_eq (q : Derivation) : q.transcript = Script.bytes q.script := by
  have hrun : q.transcript = ((q.run (Transcript.observer Terminal.device false)
      (.onText [] [] false)).value.2).device.written := rfl
  rw [hrun, run_onText, List.nil_append]
  exact List.reverse_reverse _

theorem transcript_eq_nil {q : Derivation} (h : q.reads = false) : q.transcript = [] := by
  rw [transcript, run_of_not_reads h]
  rfl

/-- What does not read adds nothing. -/
theorem flatMap_filter_reads (qs : List Derivation) :
    (qs.filter reads).flatMap transcript = Script.bytes (qs.flatMap script) := by
  induction qs with
  | nil => rfl
  | cons q qs ih =>
      rw [List.flatMap_cons, Script.bytes, List.flatMap_append, ← Script.bytes, ← Script.bytes,
        ← ih, ← transcript_eq]
      cases hq : q.reads with
      | true => rw [List.filter_cons_of_pos hq, List.flatMap_cons]
      | false => rw [List.filter_cons_of_neg (by simp [hq]), transcript_eq_nil hq, List.nil_append]

theorem count_pause_scripts (qs : List Derivation) :
    (qs.flatMap script).count .pause = 4 * qs.countP reads := by
  induction qs with
  | nil => rfl
  | cons q qs ih =>
      rw [List.flatMap_cons, List.count_append, ih, List.countP_cons, count_pause_script]
      split <;> omega

/-- A stepping transcript follows any derivations with any input. It does not fail, and every
derivation gives what it gives unobserved. What is written is what those that read have written in
transcripts of their own, without stepping and whatever the input is. Four lines of the input go for
each of them, and the others change nothing at all. -/
theorem runAll_stepping_reads_four_lines_each (input : String) (qs : List Derivation) :
    ∃ results final taken rest,
      (runAll (Transcript.observer Terminal.device true) qs
          { device := { input := utf8Bytes input } }).value = (results, final) ∧
      (final.finish Terminal.device).1 = .ok () ∧
      results = qs.map (fun q => (q.run .silent ()).value.1) ∧
      final.device.written = (qs.filter reads).flatMap transcript ∧
      input.toList = taken ++ rest ∧
      Text.FirstLines (4 * qs.countP reads) taken rest ∧
      final.device.input = utf8Bytes (String.ofList rest) ∧
      ∀ q ∈ qs, q.reads = false → ∀ t : Transcript Terminal Terminal.Fault,
        (q.run (Transcript.observer Terminal.device true) t).value.2 = t := by
  obtain ⟨taken, htext, hlines⟩ := Text.exists_firstLines (4 * qs.countP reads) input.toList
  have hrun := runAll_onText true qs [] input.toList false
  rw [List.nil_append, ← flatMap_filter_reads, if_pos rfl, count_pause_scripts] at hrun
  refine ⟨_, _, taken, _, hrun, rfl, rfl, List.reverse_reverse _, htext, hlines, ?_, ?_⟩
  · rw [utf8Bytes, String.toList_ofList]
    rfl
  · exact fun q _ hq t => run_of_not_reads hq _ t

end Derivation

end Agreement
