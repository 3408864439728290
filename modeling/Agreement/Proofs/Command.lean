import Agreement.Program
import Agreement.Proofs.Catalogue
import Agreement.Proofs.CellSyntax
import Agreement.Proofs.Observation
import Agreement.Proofs.Session
import Agreement.Proofs.TranscriptText

/-!
# Deriving a cell from the command line

A cell that is asked for on the command line is either derived or refused before anything is written
or read.
-/

namespace Agreement

/-- The transcript of a derivation is the bytes of a text. -/
theorem Derivation.utf8Bytes_decode_written (q : Derivation) (rest : List Char) :
    utf8Bytes (Terminal.decode (Terminal.ofText q.transcript rest).written) = q.transcript := by
  have hwritten : (Terminal.ofText q.transcript rest).written =
      utf8Bytes (String.ofList (Script.chars q.script)) := by
    rw [Terminal.ofText, Terminal.written, List.reverse_reverse, transcript_eq, Script.bytes_eq,
      utf8Bytes, String.toList_ofList]
  rw [hwritten, Terminal.decode_utf8Bytes, ← hwritten]
  exact List.reverse_reverse _

/-! ## The flags about the alignment -/

namespace CommandLine.AlignmentArgs

variable (flags : AlignmentArgs) (default : Alignment)

theorem resolve_of_ergative (h : flags.ergative = true) : flags.resolve default = .ergative := by
  rw [resolve, if_pos h]

theorem resolve_of_accusative (h : flags.ergative = false) (h' : flags.accusative = true) :
    flags.resolve default = .accusative := by
  rw [resolve, h, if_neg Bool.false_ne_true, if_pos h']

theorem resolve_of_neither (h : flags.ergative = false) (h' : flags.accusative = false) :
    flags.resolve default = default := by
  rw [resolve, h, h', if_neg Bool.false_ne_true, if_neg Bool.false_ne_true]

end CommandLine.AlignmentArgs

namespace Program

open CommandLine (AlignmentArgs Command)

/-! ## Computations at a device -/

section

variable {δ ε α β : Type} {x : Run δ ε α} {s s' : δ}

theorem run_bind_of_ok {a : α} (h : (x.run.run s).value = (.ok a, s')) (f : α → Run δ ε β) :
    ((x >>= f).run.run s).value = ((f a).run.run s').value := by
  rw [ExceptT.run_bind, StateT.run_bind, Logged.value_bind, h]

/-- What fails ends the computation, and the device stays as it is by then. -/
theorem run_bind_of_error {e : Failure ε} (h : (x.run.run s).value = (.error e, s'))
    (f : α → Run δ ε β) : ((x >>= f).run.run s).value = (.error e, s') := by
  rw [ExceptT.run_bind, StateT.run_bind, Logged.value_bind, h]
  rfl

theorem get_value (s : δ) : ((get : Run δ ε δ).run.run s).value = (.ok s, s) := rfl

theorem lift_of_value {y : Logged α} {a : α} (h : y.value = a) (s : δ) :
    ((liftM y : Run δ ε α).run.run s).value = (.ok a, s) := by
  rw [← h]
  rfl

theorem check_of_ok {failure : InputError → Failure ε} {y : Logged (Except InputError α)} {a : α}
    (h : y.value = .ok a) (s : δ) : ((check failure y).run.run s).value = (.ok a, s) := by
  rw [check, run_bind_of_ok (lift_of_value h s)]
  rfl

theorem check_of_error {failure : InputError → Failure ε} {y : Logged (Except InputError α)}
    {e : InputError} (h : y.value = .error e) (s : δ) :
    ((check failure y).run.run s).value = (.error (failure e), s) := by
  rw [check, run_bind_of_ok (lift_of_value h s)]
  rfl

end

/-! ## Deriving -/

section

variable {δ ε : Type} (d : Device δ ε) (step : Bool) (s : δ)

/-- What becomes of a device to which the account of a derivation is written. -/
def accounted (q : Derivation) : Except ε Unit × δ :=
  (q.run (Transcript.observer d step) { device := s }).value.2.finish d

/-- A cell string that does not read leaves the device alone, and otherwise the log does not come
between a derivation and its account. -/
theorem derive_value (entry : Catalogue.Entry) (cell : String) (alignment : Alignment) :
    ((derive d entry cell alignment step).run.run s).value =
      match Structure.readCell alignment cell with
      | .error e => (.error (.input e), s)
      | .ok _ =>
          let ended := accounted d step s ⟨entry.grammar, alignment, cell⟩
          (ended.1.mapError .account, ended.2) := by
  obtain ⟨_, hboth⟩ := entry.grammar.derive_both alignment cell (Transcript.observer d step)
    .logging { device := s } ()
  have hresult := entry.grammar.derive_value alignment cell (Transcript.observer d step)
    { device := s }
  simp only [derive, transcribe, bind_assoc]
  rw [run_bind_of_ok (get_value s), run_bind_of_ok (lift_of_value hboth s), hresult]
  cases hcell : Structure.readCell alignment cell with
  | error e =>
      rw [Grammar.derive, hcell]
      rfl
  | ok c =>
      simp only [accounted, Derivation.run]
      rcases (entry.grammar.derive alignment cell (Transcript.observer d step)
        { device := s }).value.2.finish d with ⟨_ | _, s'⟩
      · rfl
      · rfl

variable (language cell : String) (flags : AlignmentArgs)

/-- Either the language is in the catalogue and the cell string reads, and then the cell is derived
and its account finished; or there is no such derivation in either alignment, and the device is left
as it was. -/
theorem execute_derive_cases :
    (∃ entry ∈ Catalogue.entries, entry.key = language ∧
      ∃ c, Structure.readCell (flags.resolve entry.alignment) cell = .ok c ∧
        let ended := accounted d step s ⟨entry.grammar, flags.resolve entry.alignment, cell⟩
        ((execute d (.derive language cell step flags)).run.run s).value =
          (ended.1.mapError .account, ended.2)) ∨
    ((∀ a, ¬ (language ∈ Catalogue.entries.map Catalogue.Entry.key ∧
        ∃ c, Structure.readCell a cell = .ok c)) ∧
      ∃ e, ((execute d (.derive language cell step flags)).run.run s).value =
        (.error (.input e), s)) := by
  by_cases hlanguage : language ∈ Catalogue.entries.map Catalogue.Entry.key
  · obtain ⟨entry, hentry, rfl⟩ := List.mem_map.mp hlanguage
    have hexecute : ((execute d (.derive entry.key cell step flags)).run.run s).value =
        ((derive d entry cell (flags.resolve entry.alignment) step).run.run s).value :=
      run_bind_of_ok (check_of_ok (Catalogue.find_of_mem hentry) s) _
    rw [hexecute, derive_value]
    cases hcell : Structure.readCell (flags.resolve entry.alignment) cell with
    | ok c => exact Or.inl ⟨entry, hentry, rfl, c, hcell, rfl⟩
    | error e =>
        refine Or.inr ⟨fun a => ?_, e, rfl⟩
        rintro ⟨-, haccepted⟩
        obtain ⟨c, hc⟩ := (Structure.readCell_accepts_iff a _ cell).mp haccepted
        cases hcell.symm.trans hc
  · exact Or.inr ⟨fun a h => hlanguage h.1, .unknownLanguage language,
      run_bind_of_error (check_of_error (Catalogue.find_of_not_mem hlanguage) s) _⟩

end

/-! ## At a terminal -/

/-- At a terminal without limits the account is the transcript of the derivation, whether or not
somebody waits at its pauses. -/
theorem accounted_text {q : Derivation} (hq : q.reads = true) (step : Bool) (stdin : String) :
    ∃ taken rest, stdin.toList = taken ++ rest ∧
      Text.FirstLines (if step then 4 else 0) taken rest ∧
      accounted Terminal.device step { input := utf8Bytes stdin } q =
        (.ok (), .ofText q.transcript rest) := by
  have hstart : ({ device := { input := utf8Bytes stdin } } : Transcript Terminal Terminal.Fault) =
      .onText [] stdin.toList false := rfl
  have hpauses : q.script.count .pause = 4 := by
    rw [q.count_pause_script, if_pos hq]
  obtain ⟨taken, htext, hlines⟩ := Text.exists_firstLines (if step then 4 else 0) stdin.toList
  refine ⟨taken, _, htext, hlines, ?_⟩
  rw [accounted, hstart, Derivation.run_onText, Transcript.finish_onText, hpauses,
    List.nil_append, q.transcript_eq]

theorem consumed_ofText {stdin : String} {taken rest : List Char}
    (htext : stdin.toList = taken ++ rest) (written : List UInt8) :
    (utf8Bytes stdin).length - (Terminal.ofText written rest).input.length =
      (utf8Bytes (String.ofList taken)).length := by
  rw [Terminal.ofText, utf8Bytes, utf8Bytes, htext, String.toList_ofList, List.flatMap_append,
    List.length_append, Nat.add_sub_cancel]

theorem run_of_value {i : CommandLine.Invocation} {input : List UInt8} {t : Terminal}
    {result : Except (Failure Terminal.Fault) Unit}
    (h : ((execute Terminal.device i.command).run.run { input }).value = (result, t)) :
    (run i input).code = (if result.isOk then 0 else 1) ∧
      (run i input).output = Terminal.decode t.written ∧
      (run i input).consumed = input.length - t.input.length := by
  rw [run, h]
  cases result <;> exact ⟨rfl, rfl, rfl⟩

/-- A cell is derived from the command line if the language is in the catalogue and the cell string
reads, and then the output is the transcript of that derivation in the alignment asked for, or else
in that of the language. Whether somebody waits at the pauses, and what is typed meanwhile, makes no
difference to it; the input is used for four lines if there is waiting, and not at all otherwise. In
every other case nothing is written and nothing is read, whatever the device is. -/
theorem derive_all_or_nothing (verbosity : Nat) (language cell : String) (step : Bool)
    (flags : AlignmentArgs) (stdin : String) :
    ∃ entries outcome, Catalogue.load.run.value = .ok entries ∧
      run ⟨verbosity, .derive language cell step flags⟩ (utf8Bytes stdin) = outcome ∧
      (∀ a, outcome.code = 0 ↔
        language ∈ entries.map Catalogue.Entry.key ∧ ∃ c, Structure.readCell a cell = .ok c) ∧
      (outcome.code ≠ 0 → outcome.output = "" ∧ outcome.consumed = 0 ∧
        ∀ (δ ε : Type) (d : Device δ ε) (s : δ),
          ((execute d (.derive language cell step flags)).run.run s).value.2 = s) ∧
      (outcome.code = 0 →
        (∀ entry ∈ entries, entry.key = language →
          ∃ alignment : Alignment,
            (flags.ergative = true → alignment = .ergative) ∧
            (flags.ergative = false → flags.accusative = true → alignment = .accusative) ∧
            (flags.ergative = false → flags.accusative = false → alignment = entry.alignment) ∧
            utf8Bytes outcome.output =
              Derivation.transcript ⟨entry.grammar, alignment, cell⟩) ∧
        (step = true → ∃ taken rest, stdin.toList = taken ++ rest ∧
          Text.FirstLines 4 taken rest ∧
          outcome.consumed = (utf8Bytes (String.ofList taken)).length) ∧
        (step = false → outcome.consumed = 0)) := by
  refine ⟨Catalogue.entries, _, Catalogue.load_value, rfl, ?_⟩
  rcases execute_derive_cases Terminal.device step { input := utf8Bytes stdin } language cell flags
    with ⟨entry, hentry, rfl, c, hc, hvalue⟩ | ⟨hrefused, e, hvalue⟩
  · have hq : Derivation.reads ⟨entry.grammar, flags.resolve entry.alignment, cell⟩ = true := by
      rw [Derivation.reads, hc]
      rfl
    obtain ⟨taken, rest, htext, hlines, haccount⟩ := accounted_text hq step stdin
    rw [haccount] at hvalue
    obtain ⟨hcode, houtput, hconsumed⟩ := run_of_value
      (i := ⟨verbosity, .derive entry.key cell step flags⟩) hvalue
    rw [hcode, houtput, hconsumed, consumed_ofText htext]
    refine ⟨fun a => iff_of_true rfl ⟨List.mem_map_of_mem hentry, ?_⟩, fun h => absurd rfl h,
      fun _ => ⟨fun entry' hentry' hkey => ?_, ?_, ?_⟩⟩
    · exact (Structure.readCell_accepts_iff a _ cell).mpr ⟨c, hc⟩
    · obtain rfl := Catalogue.eq_of_key_eq hentry' hentry hkey
      exact ⟨flags.resolve entry'.alignment, flags.resolve_of_ergative _,
        flags.resolve_of_accusative _, flags.resolve_of_neither _,
        Derivation.utf8Bytes_decode_written _ _⟩
    · rintro rfl
      exact ⟨taken, rest, htext, hlines, rfl⟩
    · rintro rfl
      rw [hlines.eq_nil]
      rfl
  · obtain ⟨hcode, houtput, hconsumed⟩ := run_of_value
      (i := ⟨verbosity, .derive language cell step flags⟩) hvalue
    rw [hcode, houtput, hconsumed]
    refine ⟨fun a => iff_of_false Nat.one_ne_zero (hrefused a), fun _ => ⟨?_, ?_, ?_⟩,
      fun h => absurd h Nat.one_ne_zero⟩
    · exact Terminal.decode_utf8Bytes ""
    · exact Nat.sub_self _
    · intro δ ε d s
      rcases execute_derive_cases d step s language cell flags with
        ⟨entry, hentry, rfl, c, hc, -⟩ | ⟨-, e, hvalue⟩
      · exact absurd ⟨List.mem_map_of_mem hentry, c, hc⟩ (hrefused _)
      · rw [hvalue]

end Program

end Agreement
