import Agreement.Proofs.Catalogue
import Agreement.Proofs.Notation
import Agreement.Proofs.Transcript

/-!
# Transcripts can be read back

The text of a transcript consists of lines, and what stands in a line shows where each list of
entries ends. Of two grammars whose forms have no line breaks, and two cells, the transcripts are
alike only if cells, lexicons and rules are.
-/

namespace Agreement

/-! ## Lines -/

/-- Lines one after another, each with a line break at its end. -/
def unlines (ls : List (List Char)) : List Char :=
  ls.flatMap (· ++ ['\n'])

theorem unlines_injective {ls ls' : List (List Char)} (hls : ∀ l ∈ ls, '\n' ∉ l)
    (hls' : ∀ l ∈ ls', '\n' ∉ l) (h : unlines ls = unlines ls') : ls = ls' := by
  induction ls generalizing ls' with
  | nil =>
      cases ls' with
      | nil => rfl
      | cons l' ls' => simp [unlines] at h
  | cons l ls ih =>
      cases ls' with
      | nil => simp [unlines] at h
      | cons l' ls' =>
          -- Each first line ends at the first line break, so it is the same one.
          rw [List.forall_mem_cons] at hls hls'
          have hfirst : l ++ '\n' :: unlines ls = l' ++ '\n' :: unlines ls' := by
            simpa [unlines] using h
          obtain ⟨rfl, hrest⟩ := eq_of_append_cons_of_not_mem_left hls.1 hls'.1 hfirst
          rw [ih hls.2 hls'.2 hrest]

/-! ## Texts and bytes -/

def Action.chars : Action → List Char
  | .write text => text.toList
  | .pause => []

theorem utf8Encode_injective {s t : List Char}
    (h : s.flatMap String.utf8EncodeChar = t.flatMap String.utf8EncodeChar) : s = t := by
  have hbytes : (String.ofList s).toByteArray = (String.ofList t).toByteArray := by
    rw [String.toByteArray_ofList, String.toByteArray_ofList, List.utf8Encode, List.utf8Encode, h]
  exact String.ofList_inj.mp (String.toByteArray_inj.mp hbytes)

namespace Script

def chars (script : List Action) : List Char :=
  script.flatMap Action.chars

theorem bytes_eq (script : List Action) :
    bytes script = (chars script).flatMap String.utf8EncodeChar := by
  rw [bytes, chars, List.flatMap_assoc]
  congr 1
  funext a
  cases a <;> rfl

@[simp]
theorem chars_nil : chars [] = [] := rfl

@[simp]
theorem chars_append (xs ys : List Action) : chars (xs ++ ys) = chars xs ++ chars ys :=
  List.flatMap_append

@[simp]
theorem chars_line_cons (text : String) (script : List Action) :
    chars (line text :: script) = unlines [text.toList] ++ chars script := by
  simp [chars, Action.chars, line, unlines]

@[simp]
theorem chars_pause_cons (script : List Action) : chars (.pause :: script) = chars script := rfl

/-! ## Entries -/

def entryLine (index : Nat) (text : String) : List Char :=
  ("    " ++ label index ++ ". " ++ text).toList

def entries (texts : List String) : List (List Char) :=
  texts.zipIdx.map fun (text, index) => entryLine index text

theorem entryLine_injective (index : Nat) : Function.Injective (entryLine index) := by
  intro s t h
  simp only [entryLine, String.toList_append, List.append_right_inj] at h
  exact String.toList_injective h

/-- A list of entries shows every text in its place. -/
theorem entries_injective : Function.Injective entries := by
  intro xs ys h
  rw [entries, entries, ← List.mapIdx_eq_zipIdx_map, ← List.mapIdx_eq_zipIdx_map] at h
  refine List.ext_getElem? fun i => Option.map_injective (entryLine_injective i) ?_
  rw [← List.getElem?_mapIdx, ← List.getElem?_mapIdx, h]

theorem mem_entries {texts : List String} {l : List Char} (hl : l ∈ entries texts) :
    ∃ index, ∃ text ∈ texts, l = entryLine index text := by
  obtain ⟨⟨text, index⟩, hmem, rfl⟩ := List.mem_map.mp hl
  exact ⟨index, text, List.fst_mem_of_mem_zipIdx hmem, rfl⟩

theorem entryLine_eq_append (index : Nat) (text : String) :
    ∃ rest, entryLine index text = [' ', ' ', ' ', ' '] ++ rest :=
  ⟨(label index).toList ++ ". ".toList ++ text.toList, by simp [entryLine]⟩

/-- No heading is an entry, since no heading is set in as far as entries are. -/
theorem not_mem_entries {l : List Char} (hl : l.take 4 ≠ [' ', ' ', ' ', ' '])
    (texts : List String) : l ∉ entries texts := by
  intro hmem
  obtain ⟨index, text, -, rfl⟩ := mem_entries hmem
  obtain ⟨rest, hrest⟩ := entryLine_eq_append index text
  rw [hrest] at hl
  exact hl rfl

theorem newline_not_mem_label (index : Nat) : '\n' ∉ (label index).toList := by
  unfold label
  split
  · rename_i h
    have hletters : ∀ i < 26, '\n' ∉ (Char.ofNat ('a'.toNat + i)).toString.toList := by decide
    exact hletters index h
  · rw [Nat.toList_repr]
    intro hmem
    exact absurd (Nat.isDigit_of_mem_toDigits (by decide) (by decide) hmem) (by decide)

theorem newline_not_mem_entryLine (index : Nat) {text : String} (h : '\n' ∉ text.toList) :
    '\n' ∉ entryLine index text := by
  have hlabel := newline_not_mem_label index
  simp [entryLine, h, hlabel]

theorem newline_not_mem_entries {texts : List String} (h : ∀ text ∈ texts, '\n' ∉ text.toList) :
    ∀ l ∈ entries texts, '\n' ∉ l := by
  intro l hl
  obtain ⟨index, text, htext, rfl⟩ := mem_entries hl
  exact newline_not_mem_entryLine index (h text htext)

theorem chars_entries {α : Type} (text : α → String) (as : List α) :
    chars (as.zipIdx.map fun (a, index) => entry index (text a)) =
      unlines (entries (as.map text)) := by
  have hentry : ∀ index (s : String),
      (entry index s).chars = entryLine index s ++ ['\n'] := by
    intro index s
    simp [entry, line, Action.chars, entryLine]
  rw [chars, unlines, entries, List.zipIdx_map, List.map_map, List.flatMap_map, List.flatMap_map]
  simp only [hentry]
  rfl

theorem chars_list (items : List Item) :
    chars (list items) = unlines (entries (items.map Item.text)) := by
  rw [list, List.mapIdx_eq_zipIdx_map]
  exact chars_entries Item.text items

end Script

/-! ## Items and rules -/

theorem Item.newline_not_mem_text (i : Item) (h : '\n' ∉ i.form.toList) :
    '\n' ∉ i.text.toList := by
  have hmeaning : '\n' ∉ i.meaning.text.toList := mt Structure.mem_text (by decide)
  simp [toList_text, h, hmeaning]

/-- What is said of a rule in a cell. -/
def Rule.verdict (cell : Structure) (r : Rule) : String :=
  r.text ++ "  (" ++ (if r.fires cell then "applies" else "does not apply") ++ ")"

/-- Notation has no round brackets, so the rule is what stands before the first one. -/
theorem Rule.verdict_injective (cell : Structure) : Function.Injective (Rule.verdict cell) := by
  intro r q h
  have hlist : ∀ r : Rule, (r.verdict cell).toList = (r.text.toList ++ [' ', ' ']) ++ '(' ::
      ((if r.fires cell then "applies" else "does not apply").toList ++ [')']) := by
    intro r
    simp [verdict]
  have hbefore : ∀ r : Rule, '(' ∉ r.text.toList ++ [' ', ' '] := by
    intro r
    rw [List.mem_append, not_or]
    exact ⟨mt Rule.mem_text (by decide), by decide⟩
  have heq := congrArg String.toList h
  rw [hlist, hlist] at heq
  obtain ⟨htext, -⟩ := eq_of_append_cons_of_not_mem_left (hbefore r) (hbefore q) heq
  exact Rule.text_injective (String.toList_injective (List.append_cancel_right htext))

theorem Rule.newline_not_mem_verdict (cell : Structure) (r : Rule) :
    '\n' ∉ (r.verdict cell).toList := by
  have htext : '\n' ∉ r.text.toList := mt Rule.mem_text (by decide)
  unfold verdict
  cases r.fires cell <;> simp [htext]

/-- The rules of a cell have one heading, which is there even if there are no rules. -/
theorem Stage.scripts_rules (cell : Structure) (announced : Bool) (index : Nat) (rules : List Rule)
    (items : List Item) (stages : List Stage) :
    scripts announced (ruleStages cell index rules ++ .generalised items :: stages) =
      Script.heading announced ++
        (rules.zipIdx index).map (fun (r, i) => Script.entry i (r.verdict cell)) ++
        Script.generalised true items ++ scripts true stages := by
  induction rules generalizing announced index with
  | nil => simp [ruleStages, scripts, Stage.script, announces, Script.generalised, Script.heading]
  | cons r rules ih =>
      -- After one rule the heading is there, so all later rules go without it.
      rw [ruleStages_cons, List.cons_append, scripts, announces, ih]
      simp [Stage.script, Script.rule, Script.heading, Rule.verdict]

/-! ## The lines of a transcript -/

namespace Grammar

variable (g : Grammar) (cell : Structure)

/-- What a transcript of a cell says, line by line. -/
def lines : List (List Char) :=
  ("Paradigm cell: " ++ cell.text).toList :: " 1. Creating copy of the morpheme list".toList ::
    (Script.entries (g.lexicon.map Item.text) ++ " 2. Applying rules".toList ::
      (Script.entries (g.rules.map (Rule.verdict cell)) ++ [] :: "    new VI list".toList ::
        (Script.entries ((g.generalised cell).map Item.text) ++
          " 3. Finding Vocabulary Items".toList ::
            Script.entries ((g.inserted cell).map Item.text))))

theorem script_eq_append :
    g.script cell =
      Script.cell cell ++ Script.copied g.lexicon ++ Script.heading false ++
        g.rules.zipIdx.map (fun (r, i) => Script.entry i (r.verdict cell)) ++
        Script.generalised true (g.generalised cell) ++ Script.matched (g.inserted cell) := by
  have hrules := Stage.scripts_rules cell false 0 g.rules (g.generalised cell)
    [.matched (g.inserted cell)]
  rw [script_eq, stages, List.append_assoc]
  simp [Stage.scripts, Stage.script, Stage.announces, hrules]

theorem chars_script : Script.chars (g.script cell) = unlines (g.lines cell) := by
  have hrules := Script.chars_entries (Rule.verdict cell) g.rules
  rw [script_eq_append]
  simp [Script.cell, Script.copied, Script.heading, Script.generalised, Script.matched, lines,
    Script.chars_list, hrules, unlines]

variable {g cell}

/-- The rules change no form, so all items shown have forms of the lexicon. -/
theorem newline_not_mem_lines (hforms : ∀ i ∈ g.lexicon, '\n' ∉ i.form.toList) :
    ∀ l ∈ g.lines cell, '\n' ∉ l := by
  have hitems : ∀ items : List Item, (∀ i ∈ items, '\n' ∉ i.form.toList) →
      ∀ l ∈ Script.entries (items.map Item.text), '\n' ∉ l := by
    intro items hitems
    refine Script.newline_not_mem_entries (List.forall_mem_map.mpr fun i hi => ?_)
    exact i.newline_not_mem_text (hitems i hi)
  have hrules : ∀ l ∈ Script.entries (g.rules.map (Rule.verdict cell)), '\n' ∉ l :=
    Script.newline_not_mem_entries
      (List.forall_mem_map.mpr fun r _ => r.newline_not_mem_verdict cell)
  have hgeneralised : ∀ i ∈ g.generalised cell, '\n' ∉ i.form.toList :=
    List.forall_mem_map.mpr hforms
  have hinserted : ∀ i ∈ g.inserted cell, '\n' ∉ i.form.toList := fun i hi =>
    hgeneralised i (List.mem_of_mem_filter hi)
  have hcell : '\n' ∉ cell.text.toList := mt Structure.mem_text (by decide)
  simp only [lines, List.forall_mem_cons, List.forall_mem_append]
  refine ⟨?_, by decide, hitems _ hforms, by decide, hrules, by decide, by decide,
    hitems _ hgeneralised, by decide, hitems _ hinserted⟩
  simp [hcell]

variable {h : Grammar} {cell' : Structure}

/-- The heading of the rules ends the lexicon and the empty line ends the rules, since neither looks
like an entry. What follows is settled by what stands before it. -/
theorem eq_of_lines_eq (heq : g.lines cell = h.lines cell') :
    cell = cell' ∧ g.lexicon = h.lexicon ∧ g.rules = h.rules := by
  rw [lines, lines, List.cons.injEq, List.cons.injEq] at heq
  obtain ⟨hcell, -, hblocks⟩ := heq
  obtain rfl : cell = cell' := by
    rw [String.toList_append, String.toList_append] at hcell
    exact Structure.text_injective (String.toList_injective (List.append_cancel_left hcell))
  have hheading := Script.not_mem_entries (l := " 2. Applying rules".toList) (by decide)
  obtain ⟨hlexicon, hblocks⟩ :=
    eq_of_append_cons_of_not_mem_left (hheading _) (hheading _) hblocks
  have hblank := Script.not_mem_entries (l := []) (by decide)
  obtain ⟨hrules, -⟩ := eq_of_append_cons_of_not_mem_left (hblank _) (hblank _) hblocks
  exact ⟨rfl,
    List.map_injective_iff.mpr Item.text_injective (Script.entries_injective hlexicon),
    List.map_injective_iff.mpr (Rule.verdict_injective cell) (Script.entries_injective hrules)⟩

variable {δ δ' ε ε' : Type}

/-- Two transcripts that did not fail, at devices of whatever kind, wrote the same only if they are
of the same cell, lexicon and rules, and then every stage of the two realisations is the same: which
rules fired, the items after all rules, and the items to insert. -/
theorem eq_of_written_eq {d : Device δ ε} {d' : Device δ' ε'} {stepping stepping' : Bool} {s : δ}
    {s' : δ'} (hg : ∀ i ∈ g.lexicon, '\n' ∉ i.form.toList)
    (hh : ∀ i ∈ h.lexicon, '\n' ∉ i.form.toList)
    (hok : (g.transcribe cell d stepping s).1 = .ok ())
    (hok' : (h.transcribe cell' d' stepping' s').1 = .ok ())
    (heq : Call.written (g.transcribe cell d stepping s).2.2 =
      Call.written (h.transcribe cell' d' stepping' s').2.2) :
    cell = cell' ∧ g.lexicon = h.lexicon ∧ g.rules = h.rules ∧
      (g.realiseWith cell .recorder []).value.2 = (h.realiseWith cell' .recorder []).value.2 := by
  -- Bytes determine characters, characters determine lines, and lines what they show.
  rw [written_transcribe g cell hok, written_transcribe h cell' hok', Script.bytes_eq,
    Script.bytes_eq] at heq
  have hchars := utf8Encode_injective heq
  rw [chars_script, chars_script] at hchars
  have hlines := unlines_injective (newline_not_mem_lines hg) (newline_not_mem_lines hh) hchars
  obtain ⟨rfl, hlexicon, hrules⟩ := eq_of_lines_eq hlines
  refine ⟨rfl, hlexicon, hrules, ?_⟩
  simp only [realiseWith_value, stages, generalised, inserted, hlexicon, hrules]

/-- Takes every byte, at the end of those it has. -/
def paper : Device (List UInt8) Empty where
  accept byte bytes := (.ok (), bytes ++ [byte])
  flush bytes := (.ok (), bytes)
  readLine bytes := (.ok (), bytes)

/-- The switches and the name of a grammar do not show in its transcripts. -/
theorem karuk_eq_of_written_eq :
    let cell : Structure := ⟨[{ case := some .nominative, person3 := some .plus }]⟩
    let h := { Catalogue.karuk with name := "Karuk, all cells", transitive := false }
    Call.written (Catalogue.karuk.transcribe cell paper false []).2.2 =
        Call.written (h.transcribe cell paper true []).2.2 ∧
      (Catalogue.karuk.realiseWith cell .recorder []).value.2 =
        (h.realiseWith cell .recorder []).value.2 := by
  intro cell h
  have hok := Catalogue.karuk.transcribe_ok cell paper false []
  have hok' := h.transcribe_ok cell paper true []
  have heq : Call.written (Catalogue.karuk.transcribe cell paper false []).2.2 =
      Call.written (h.transcribe cell paper true []).2.2 := by
    rw [written_transcribe _ _ hok, written_transcribe _ _ hok']
    rfl
  exact ⟨heq, (eq_of_written_eq (by decide) (by decide) hok hok' heq).2.2.2⟩

end Grammar

end Agreement
