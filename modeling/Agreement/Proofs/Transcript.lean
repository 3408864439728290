import Agreement.Proofs.Realisation
import Agreement.Transcript.Basic

/-!
# Transcripts at devices that fail

A transcript asks one thing after another of its device: to accept a byte, to flush, to wait for a
line. What it would ask of a device that never fails is settled by the grammar and the cell. The
first request that fails is the last one, whatever the device would have done later, and its fault
is the outcome.
-/

namespace Agreement

/-! ## Requests and calls -/

/-- Something that is asked of a device. -/
inductive Request where
  | accept (byte : UInt8)
  | flush
  | readLine
deriving Repr, DecidableEq

def Request.byte? : Request → Option UInt8
  | accept byte => some byte
  | _ => none

/-- A request to a device, and what came of it. -/
structure Call (ε : Type) where
  request : Request
  outcome : Except ε Unit

variable {δ ε : Type}

/-- How something ends whose first fault is known. -/
def outcome : Option ε → Except ε Unit
  | some e => .error e
  | none => .ok ()

theorem outcome_eq_ok_iff {fault : Option ε} : outcome fault = .ok () ↔ fault = none := by
  cases fault <;> simp [outcome]

namespace Call

def granted (r : Request) : Call ε :=
  ⟨r, .ok ()⟩

def failed (r : Request) (e : ε) : Call ε :=
  ⟨r, .error e⟩

def accepted? (c : Call ε) : Option UInt8 :=
  match c.outcome with
  | .ok () => c.request.byte?
  | .error _ => none

def fault? (c : Call ε) : Option ε :=
  match c.outcome with
  | .ok () => none
  | .error e => some e

/-- The bytes that went through, in order. -/
def written (calls : List (Call ε)) : List UInt8 :=
  calls.filterMap accepted?

def firstFault? (calls : List (Call ε)) : Option ε :=
  calls.findSome? fault?

theorem firstFault?_eq_none_iff {calls : List (Call ε)} :
    firstFault? calls = none ↔ ∀ c ∈ calls, c.outcome = .ok () := by
  rw [firstFault?, List.findSome?_eq_none_iff]
  refine forall₂_congr fun c _ => ?_
  rcases c with ⟨r, e | ⟨⟩⟩ <;> simp [fault?]

theorem written_granted (rs : List Request) :
    written (rs.map granted : List (Call ε)) = rs.filterMap Request.byte? := by
  rw [written, List.filterMap_map]
  rfl

theorem firstFault?_granted (rs : List Request) :
    firstFault? (rs.map granted : List (Call ε)) = none := by
  rw [firstFault?_eq_none_iff]
  intro c hc
  obtain ⟨r, -, rfl⟩ := List.mem_map.mp hc
  rfl

theorem firstFault?_failed (rs : List Request) (r : Request) (e : ε) :
    firstFault? (rs.map granted ++ [failed r e]) = some e := by
  rw [firstFault?, List.findSome?_append, ← firstFault?, firstFault?_granted]
  rfl

end Call

/-! ## Devices -/

namespace Device

def ask (d : Device δ ε) : Request → δ → Except ε Unit × δ
  | .accept byte => d.accept byte
  | .flush => d.flush
  | .readLine => d.readLine

/-- Asks one thing after another, up to and with the first that fails. -/
def askAll (d : Device δ ε) : List Request → δ → List (Call ε) × δ
  | [], s => ([], s)
  | r :: rs, s =>
      match d.ask r s with
      | (.ok (), s) => (.granted r :: (d.askAll rs s).1, (d.askAll rs s).2)
      | (.error e, s) => ([.failed r e], s)

variable (d : Device δ ε)

/-- Either everything is granted, or all before a request that fails and nothing after it. -/
theorem askAll_cases (rs : List Request) (s : δ) :
    (d.askAll rs s).1 = rs.map .granted ∨
      ∃ before r after e, rs = before ++ r :: after ∧
        (d.askAll rs s).1 = before.map .granted ++ [.failed r e] := by
  induction rs generalizing s with
  | nil => exact Or.inl rfl
  | cons r rs ih =>
      rw [askAll]
      rcases d.ask r s with ⟨e | ⟨⟩, s'⟩
      · exact Or.inr ⟨[], r, rs, e, rfl, rfl⟩
      · rcases ih s' with hall | ⟨before, q, after, e, rfl, hcalls⟩
        · exact Or.inl (congrArg (Call.granted r :: ·) hall)
        · exact Or.inr ⟨r :: before, q, after, e, rfl, congrArg (Call.granted r :: ·) hcalls⟩

theorem written_askAll_eq {rs : List Request} {s : δ}
    (h : Call.firstFault? (d.askAll rs s).1 = none) :
    Call.written (d.askAll rs s).1 = rs.filterMap Request.byte? := by
  rcases d.askAll_cases rs s with hall | ⟨before, r, after, e, -, hcalls⟩
  · rw [hall, Call.written_granted]
  · rw [hcalls, Call.firstFault?_failed] at h
    cases h

/-- A device whose faults cannot be named never fails. -/
theorem firstFault?_eq_none (d : Device δ Empty) (rs : List Request) (s : δ) :
    Call.firstFault? (d.askAll rs s).1 = none := by
  cases h : Call.firstFault? (d.askAll rs s).1 with
  | none => rfl
  | some e => exact e.elim

/-! ### Keeping the calls -/

/-- Asks for something and puts the call at the end of those kept. -/
def keep (r : Request) (s : δ × List (Call ε)) : Except ε Unit × (δ × List (Call ε)) :=
  ((d.ask r s.1).1, ((d.ask r s.1).2, s.2 ++ [⟨r, (d.ask r s.1).1⟩]))

/-- The same device, with all calls that were made to it. -/
def traced : Device (δ × List (Call ε)) ε where
  accept byte := d.keep (.accept byte)
  flush := d.keep .flush
  readLine := d.keep .readLine

theorem ask_traced (r : Request) : d.traced.ask r = d.keep r := by
  cases r <;> rfl

theorem askAll_traced (rs : List Request) (s : δ) (calls : List (Call ε)) :
    d.traced.askAll rs (s, calls) =
      ((d.askAll rs s).1, ((d.askAll rs s).2, calls ++ (d.askAll rs s).1)) := by
  induction rs generalizing s calls with
  | nil => simp [askAll]
  | cons r rs ih =>
      rw [askAll, askAll, ask_traced, keep]
      rcases d.ask r s with ⟨e | ⟨⟩, s'⟩
      · rfl
      · simp [ih, Call.granted]

end Device

/-! ## Scripts as requests -/

def Action.requests (stepping : Bool) : Action → List Request
  | .write text => (utf8Bytes text).map .accept
  | .pause => .flush :: if stepping then [.readLine] else []

def Action.bytes : Action → List UInt8
  | .write text => utf8Bytes text
  | .pause => []

theorem Action.filterMap_requests (stepping : Bool) (a : Action) :
    (a.requests stepping).filterMap Request.byte? = a.bytes := by
  cases a with
  | write text =>
      rw [requests, List.filterMap_map]
      exact List.filterMap_some
  | pause => cases stepping <;> rfl

namespace Script

/-- What a script asks of a device that never fails. -/
def requests (stepping : Bool) (script : List Action) : List Request :=
  script.flatMap (Action.requests stepping)

def bytes (script : List Action) : List UInt8 :=
  script.flatMap Action.bytes

/-- Stepping makes no difference to what is written. -/
theorem filterMap_requests (stepping : Bool) (script : List Action) :
    (requests stepping script).filterMap Request.byte? = bytes script := by
  simp only [requests, bytes, List.filterMap_flatMap, Action.filterMap_requests]

end Script

namespace Transcript

variable (d : Device δ ε)

/-- Asks for something, unless there was a fault before. -/
def ask (t : Transcript δ ε) (r : Request) : Transcript δ ε :=
  t.attempt (d.ask r)

theorem ask_of_fault {t : Transcript δ ε} {e : ε} (h : t.fault = some e) (r : Request) :
    t.ask d r = t := by
  rw [ask, attempt, h]

theorem foldl_ask_of_fault {t : Transcript δ ε} {e : ε} (h : t.fault = some e)
    (rs : List Request) : rs.foldl (ask d) t = t := by
  induction rs with
  | nil => rfl
  | cons r rs ih => rw [List.foldl_cons, ask_of_fault d h, ih]

/-- Without a fault so far, a transcript asks one thing after another up to the first failure. -/
theorem foldl_ask {t : Transcript δ ε} (h : t.fault = none) (rs : List Request) :
    rs.foldl (ask d) t =
      { t with
        device := (d.askAll rs t.device).2
        fault := Call.firstFault? (d.askAll rs t.device).1 } := by
  obtain ⟨s, fault, announced⟩ := t
  cases h
  -- The device goes from state to state, and after the first failure the fold is idle.
  induction rs generalizing s with
  | nil => rfl
  | cons r rs ih =>
      rw [List.foldl_cons, Device.askAll, ask, attempt]
      rcases d.ask r s with ⟨e | ⟨⟩, s'⟩
      · exact foldl_ask_of_fault d rfl rs
      · exact ih s'

theorem perform_eq (stepping : Bool) (t : Transcript δ ε) (a : Action) :
    perform d stepping t a = (a.requests stepping).foldl (ask d) t := by
  cases a with
  | write text =>
      rw [perform, Action.requests, List.foldl_map]
      rfl
  | pause => cases stepping <;> rfl

theorem play_eq (stepping : Bool) (t : Transcript δ ε) (script : List Action) :
    play d stepping t script = (Script.requests stepping script).foldl (ask d) t := by
  rw [play, funext₂ (perform_eq d stepping), Script.requests, List.foldl_flatMap]

/-- The last flush is one more request, and the outcome is the fault after it. -/
theorem finish_eq (t : Transcript δ ε) :
    t.finish d = (outcome (t.ask d .flush).fault, (t.ask d .flush).device) := by
  obtain ⟨s, fault, announced⟩ := t
  cases fault with
  | some e => rfl
  | none =>
      rw [finish, ask, attempt]
      change d.flush s = _
      rcases h : d.flush s with ⟨e | ⟨⟩, s'⟩ <;> simp [Device.ask, h, outcome]

end Transcript

/-! ## Stages as scripts -/

/-- What is written of a stage; the heading of the rules may be there already. -/
def Stage.script (announced : Bool) : Stage → List Action
  | .cell c => Script.cell c
  | .copied items => Script.copied items
  | .rule index r fired => Script.rule announced index r fired
  | .generalised items => Script.generalised announced items
  | .matched items => Script.matched items

/-- Whether the rules of the present cell are announced after a stage. -/
def Stage.announces (announced : Bool) : Stage → Bool
  | .cell _ => false
  | .rule .. | .generalised _ => true
  | .copied _ | .matched _ => announced

def Stage.scripts : Bool → List Stage → List Action
  | _, [] => []
  | announced, stage :: stages =>
      stage.script announced ++ scripts (stage.announces announced) stages

namespace Transcript

variable (d : Device δ ε) (stepping : Bool)

theorem play_append (t : Transcript δ ε) (xs ys : List Action) :
    play d stepping t (xs ++ ys) = play d stepping (play d stepping t xs) ys :=
  List.foldl_append

theorem ask_announced (t : Transcript δ ε) (r : Request) (announced : Bool) :
    ask d { t with announced } r = { ask d t r with announced } := by
  obtain ⟨s, fault, _⟩ := t
  cases fault with
  | some e => rfl
  | none =>
      rw [ask, ask, attempt, attempt]
      rcases d.ask r s with ⟨e | ⟨⟩, s'⟩ <;> rfl

/-- Playing a script neither reads nor changes whether the rules were announced. -/
theorem play_announced (t : Transcript δ ε) (announced : Bool) (script : List Action) :
    play d stepping { t with announced } script =
      { play d stepping t script with announced } := by
  rw [play_eq, play_eq]
  induction Script.requests stepping script generalizing t with
  | nil => rfl
  | cons r rs ih => rw [List.foldl_cons, List.foldl_cons, ask_announced, ih]

theorem finish_announced (t : Transcript δ ε) (announced : Bool) :
    finish d { t with announced } = finish d t := rfl

/-- One stage: its script is played. -/
theorem tell_value (t : Transcript δ ε) (stage : Stage) :
    ((observer d stepping).tell t stage).value =
      { play d stepping t (stage.script t.announced) with
        announced := stage.announces t.announced } := by
  cases stage with
  | cell c => exact play_announced d stepping t false (Script.cell c)
  | copied items => exact play_announced d stepping t t.announced (Script.copied items)
  | rule index r fired => rfl
  | generalised items => rfl
  | matched items => exact play_announced d stepping t t.announced (Script.matched items)

/-- All stages: their scripts are played one after another, faults or no faults. -/
theorem after_eq (stages : List Stage) (t : Transcript δ ε) :
    (observer d stepping).after stages t =
      { play d stepping t (Stage.scripts t.announced stages) with
        announced := stages.foldl Stage.announces t.announced } := by
  induction stages generalizing t with
  | nil => rfl
  | cons stage stages ih =>
      rw [Observer.after_cons, tell_value, ih, play_announced, Stage.scripts, play_append,
        List.foldl_cons]

end Transcript

/-! ## Accounts -/

/-- The script of the stages seen so far. -/
structure Account where
  script : List Action := []
  /-- Whether the rules of the present cell were announced. -/
  announced : Bool := false
deriving Repr, DecidableEq

namespace Account

/-- The account with more actions at its end. -/
def append (a : Account) (actions : List Action) : Account :=
  { a with script := a.script ++ actions }

/-- Collects the script of a realisation. -/
def observer : Observer Account where
  cell c a := pure ({ a with announced := false }.append (Script.cell c))
  copied items a := pure (a.append (Script.copied items))
  rule index r fired a :=
    pure { a.append (Script.rule a.announced index r fired) with announced := true }
  generalised items a :=
    pure { a.append (Script.generalised a.announced items) with announced := true }
  matched items a := pure (a.append (Script.matched items))

theorem tell_value (a : Account) (stage : Stage) :
    (observer.tell a stage).value =
      ⟨a.script ++ stage.script a.announced, stage.announces a.announced⟩ := by
  cases stage <;> rfl

theorem after_eq (stages : List Stage) (a : Account) :
    observer.after stages a =
      ⟨a.script ++ Stage.scripts a.announced stages, stages.foldl Stage.announces a.announced⟩ := by
  induction stages generalizing a with
  | nil => simp [Stage.scripts]
  | cons stage stages ih =>
      rw [Observer.after_cons, tell_value, ih, Stage.scripts, List.foldl_cons,
        List.append_assoc]

end Account

/-! ## Realising a cell -/

namespace Grammar

variable (g : Grammar) (cell : Structure)

/-- The account of a cell, as a list of actions. -/
def script : List Action :=
  (g.realiseWith cell Account.observer {}).value.2.script

theorem script_eq : g.script cell = Stage.scripts false (g.stages cell) := by
  rw [script, realiseWith_value, Account.after_eq]
  rfl

/-- What is asked of a device that never fails, the last flush included. -/
def requests (stepping : Bool) : List Request :=
  Script.requests stepping (g.script cell) ++ [.flush]

theorem filterMap_requests (stepping : Bool) :
    (g.requests cell stepping).filterMap Request.byte? = Script.bytes (g.script cell) := by
  rw [requests, List.filterMap_append, Script.filterMap_requests]
  exact List.append_nil _

/-- A transcript of one cell asks for its requests, up to the first failure. -/
theorem finish_realiseWith (d : Device δ ε) (stepping : Bool) (s : δ) :
    (g.realiseWith cell (Transcript.observer d stepping) { device := s }).value.2.finish d =
      (outcome (Call.firstFault? (d.askAll (g.requests cell stepping) s).1),
        (d.askAll (g.requests cell stepping) s).2) := by
  have hplay : ((g.requests cell stepping).foldl (Transcript.ask d) { device := s }) =
      (Transcript.play d stepping { device := s } (g.script cell)).ask d .flush := by
    rw [requests, List.foldl_append, Transcript.play_eq]
    rfl
  rw [Transcript.foldl_ask d rfl] at hplay
  rw [realiseWith_value, Transcript.after_eq, Transcript.finish_announced, ← script_eq,
    Transcript.finish_eq, ← hplay]

/-- Everything that a transcript of one cell does: its outcome, the last state of the device, and
all calls to the device in order. -/
def transcribe (d : Device δ ε) (stepping : Bool) (s : δ) : Except ε Unit × δ × List (Call ε) :=
  (g.realiseWith cell (Transcript.observer d.traced stepping) { device := (s, []) }).value.2.finish
    d.traced

theorem transcribe_eq (d : Device δ ε) (stepping : Bool) (s : δ) :
    g.transcribe cell d stepping s =
      (outcome (Call.firstFault? (d.askAll (g.requests cell stepping) s).1),
        (d.askAll (g.requests cell stepping) s).2, (d.askAll (g.requests cell stepping) s).1) := by
  rw [transcribe, finish_realiseWith, Device.askAll_traced]
  rfl

/-- A transcript that does not fail writes the whole script. -/
theorem written_transcribe {d : Device δ ε} {stepping : Bool} {s : δ}
    (h : (g.transcribe cell d stepping s).1 = .ok ()) :
    Call.written (g.transcribe cell d stepping s).2.2 = Script.bytes (g.script cell) := by
  rw [transcribe_eq] at h ⊢
  rw [← g.filterMap_requests cell stepping]
  exact d.written_askAll_eq (outcome_eq_ok_iff.mp h)

theorem transcribe_ok (d : Device δ Empty) (stepping : Bool) (s : δ) :
    (g.transcribe cell d stepping s).1 = .ok () := by
  rw [transcribe_eq, Device.firstFault?_eq_none]
  rfl

end Grammar

end Agreement
