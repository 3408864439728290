import Agreement.Transcript.Script

/-!
# Transcripts

A transcript is an observer that performs the script of each stage at a device. The device may fail
at any byte, flush or line. The first fault is kept and ends all dealings with the device, while
the realisation goes on.
-/

namespace Agreement

/-- A device with states `δ` and faults `ε`. After a fault it may well work again. -/
structure Device (δ ε : Type) where
  accept : UInt8 → δ → Except ε Unit × δ
  /-- Passes on what it holds. -/
  flush : δ → Except ε Unit × δ
  /-- Waits for a line. -/
  readLine : δ → Except ε Unit × δ

def utf8Bytes (s : String) : List UInt8 :=
  s.toList.flatMap String.utf8EncodeChar

/-- How far an account has come. -/
structure Transcript (δ ε : Type) where
  device : δ
  fault : Option ε := none
  /-- Whether the rules of the present cell were announced. -/
  announced : Bool := false

namespace Transcript

variable {δ ε : Type}

/-- Uses the device, unless there was a fault before. -/
def attempt (t : Transcript δ ε) (use : δ → Except ε Unit × δ) : Transcript δ ε :=
  match t.fault with
  | some _ => t
  | none =>
      match use t.device with
      | (.ok (), device) => { t with device }
      | (.error e, device) => { t with device, fault := some e }

/-- Performs one action; `stepping` says whether pauses wait for a line. -/
def perform (d : Device δ ε) (stepping : Bool) (t : Transcript δ ε) : Action → Transcript δ ε
  | .write text => (utf8Bytes text).foldl (fun t byte => t.attempt (d.accept byte)) t
  | .pause =>
      let t := t.attempt d.flush
      if stepping then t.attempt d.readLine else t

def play (d : Device δ ε) (stepping : Bool) (t : Transcript δ ε) (script : List Action) :
    Transcript δ ε :=
  script.foldl (perform d stepping) t

/-- Writes the account of a realisation to a device. -/
def observer (d : Device δ ε) (stepping : Bool) : Observer (Transcript δ ε) where
  cell c t := pure (play d stepping { t with announced := false } (Script.cell c))
  copied items t := pure (play d stepping t (Script.copied items))
  rule index r fired t :=
    pure { play d stepping t (Script.rule t.announced index r fired) with announced := true }
  generalised items t :=
    pure { play d stepping t (Script.generalised t.announced items) with announced := true }
  matched items t := pure (play d stepping t (Script.matched items))

/-- Ends the account with a last flush; the outcome is the first fault, if there was one. -/
def finish (d : Device δ ε) (t : Transcript δ ε) : Except ε Unit × δ :=
  match t.fault with
  | some e => (.error e, t.device)
  | none => d.flush t.device

end Transcript

end Agreement
