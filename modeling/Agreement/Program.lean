import Agreement.Catalogue
import Agreement.CommandLine
import Agreement.Paradigm
import Agreement.Transcript.Terminal

/-!
# The program

A command is carried out at a device, which takes the output and is read from at the pauses of an
account. A step that fails ends the command and leaves the device as it is by then.
-/

namespace Agreement

section

variable {δ ε : Type}

/-- Writes bytes, up to the first that is not accepted. -/
def Device.acceptAll (d : Device δ ε) : List UInt8 → δ → Except ε Unit × δ
  | [], s => (.ok (), s)
  | byte :: bytes, s =>
      match d.accept byte s with
      | (.ok (), s) => d.acceptAll bytes s
      | (.error e, s) => (.error e, s)

def Device.write (d : Device δ ε) (text : String) : δ → Except ε Unit × δ :=
  d.acceptAll (utf8Bytes text)

end

namespace Program

open CommandLine (Command Invocation)

/-! ## Failures -/

/-- Why a command fails. -/
inductive Failure (ε : Type) where
  | input (e : InputError)
  /-- The paradigm of this entry cannot be built. -/
  | paradigm (key : String) (e : InputError)
  /-- The account of a derivation cannot be written. -/
  | account (fault : ε)
  /-- Any other output cannot be written. -/
  | output (fault : ε)
deriving Repr, DecidableEq

/-- A message with the one that is its cause. -/
def withContext (message cause : String) : String :=
  message ++ "\n\nCaused by:\n    " ++ cause

def Failure.message {ε : Type} (text : ε → String) : Failure ε → String
  | input e => e.message
  | paradigm key e => withContext ("Failed to build the " ++ key ++ " paradigm") e.message
  | account fault => withContext "Failed to write the derivation" (text fault)
  | output fault => text fault

/-! ## Commands -/

/-- A computation at a device with states `δ`: it reports events and changes the state, and it may
fail. -/
abbrev Run (δ ε : Type) := ExceptT (Failure ε) (StateT δ Logged)

/-- The catalogue, a line for each entry, with the titles in one column. -/
def listing (entries : List Catalogue.Entry) : String :=
  let width := entries.foldl (fun n e => max n e.key.utf8ByteSize) 0
  String.join (entries.map fun e => Table.pad width e.key ++ "  " ++ e.title ++ "\n")

section

variable {δ ε β α : Type}

/-- Goes on with a value, or fails with what `failure` makes of the error. -/
def orFail (failure : β → Failure ε) : Except β α → Run δ ε α
  | .ok a => pure a
  | .error e => throw (failure e)

/-- Goes on with what was read or built, if nothing is wrong with it. -/
def check (failure : InputError → Failure ε) (x : Logged (Except InputError α)) :
    Run δ ε α := do
  orFail failure (← x)

/-- Uses the device. -/
def use (failure : ε → Failure ε) (f : δ → Except ε α × δ) : Run δ ε α := do
  orFail failure (← modifyGet f)

variable (d : Device δ ε)

def list : Run δ ε Unit := do
  let entries ← check .input Catalogue.load
  use .output (d.write (listing entries))

/-- Writes the title of an entry and the paradigm of its language. -/
def table (entry : Catalogue.Entry) (alignment : Alignment) (gapMarker : String) :
    Run δ ε Unit := do
  let paradigm ← check (.paradigm entry.key) (entry.grammar.buildParadigm alignment)
  use .output (d.write (entry.title ++ "\n" ++ (paradigm.table gapMarker).render ++ "\n"))

/-- Derives a cell, while its account is written and every stage is logged. -/
def transcribe (entry : Catalogue.Entry) (cell : String) (alignment : Alignment) (step : Bool) :
    Run δ ε (List Item) := do
  let observer := (Transcript.observer d step).both .logging
  let (result, transcript, _) ←
    entry.grammar.derive alignment cell observer ({ device := ← get }, ())
  set transcript.device
  let items ← orFail .input result
  let (finished, device) := transcript.finish d
  set device
  orFail .account finished
  return items

/-- Derives a cell and reports its forms. -/
def derive (entry : Catalogue.Entry) (cell : String) (alignment : Alignment) (step : Bool) :
    Run δ ε Unit := do
  let items ← transcribe d entry cell alignment step
  Logged.report (.cellDerived entry.grammar.name cell (Item.spellOut items))

/-- Carries a command out. A language is drawn in its own alignment unless another one is asked
for. -/
def execute : Command → Run δ ε Unit
  | .list => list d
  | .table language alignment gapMarker => do
      let entry ← check .input (Catalogue.find language)
      table d entry (alignment.resolve entry.alignment) (gapMarker.getD "")
  | .derive language cell step alignment => do
      let entry ← check .input (Catalogue.find language)
      derive d entry cell (alignment.resolve entry.alignment) step

end

/-! ## Running -/

/-- What there is to see of a program that has ended. -/
structure Outcome where
  code : Nat
  output : String
  /-- The message of the failure, if there was one. -/
  errors : String
  /-- The number of bytes of the input that were read. -/
  consumed : Nat
  /-- The events at the level asked for. -/
  log : List Event
deriving Repr, DecidableEq

/-- Runs the program with the given input at a terminal without limits. -/
def run (i : Invocation) (input : List UInt8) : Outcome :=
  let finished := (execute Terminal.device i.command).run.run { input }
  let (result, terminal) := finished.value
  let output := Terminal.decode terminal.written
  let consumed := input.length - terminal.input.length
  let log := Event.atLevel i.level finished.events
  match result with
  | .ok () => { code := 0, output, errors := "", consumed, log }
  | .error failure =>
      let errors := "Error: " ++ failure.message Terminal.Fault.message ++ "\n"
      { code := 1, output, errors, consumed, log }

end Program

end Agreement
