import Agreement.Proofs.Logged
import Agreement.Realisation

/-!
# What observers see

The stages of a realisation as data, and an observer that keeps them all. The state in which an
observer ends is the fold of its callbacks over the stages that it is told of.
-/

namespace Agreement

/-- A stage of a realisation, with what an observer is told of it. -/
inductive Stage where
  | cell (cell : Structure)
  | copied (items : List Item)
  | rule (index : Nat) (rule : Rule) (fired : Bool)
  | generalised (items : List Item)
  | matched (items : List Item)
deriving DecidableEq

namespace Stage

def generalised? : Stage → Option (List Item)
  | generalised items => some items
  | _ => none

def matched? : Stage → Option (List Item)
  | matched items => some items
  | _ => none

end Stage

namespace Observer

variable {σ τ : Type}

def tell (o : Observer σ) (s : σ) : Stage → Logged σ
  | .cell c => o.cell c s
  | .copied items => o.copied items s
  | .rule index r fired => o.rule index r fired s
  | .generalised items => o.generalised items s
  | .matched items => o.matched items s

/-- The state of the observer after the given stages. -/
def after (o : Observer σ) (stages : List Stage) (s : σ) : σ :=
  stages.foldl (fun s stage => (o.tell s stage).value) s

@[simp]
theorem after_nil (o : Observer σ) (s : σ) : o.after [] s = s := rfl

@[simp]
theorem after_cons (o : Observer σ) (stage : Stage) (stages : List Stage) (s : σ) :
    o.after (stage :: stages) s = o.after stages (o.tell s stage).value := rfl

theorem after_append (o : Observer σ) (xs ys : List Stage) (s : σ) :
    o.after (xs ++ ys) s = o.after ys (o.after xs s) :=
  List.foldl_append

/-- Keeps every stage, the last one at the end. -/
def recorder : Observer (List Stage) where
  cell c seen := pure (seen ++ [.cell c])
  copied items seen := pure (seen ++ [.copied items])
  rule index r fired seen := pure (seen ++ [.rule index r fired])
  generalised items seen := pure (seen ++ [.generalised items])
  matched items seen := pure (seen ++ [.matched items])

theorem recorder_tell (seen : List Stage) (stage : Stage) :
    (recorder.tell seen stage).value = seen ++ [stage] := by
  cases stage <;> rfl

theorem recorder_after (stages seen : List Stage) :
    recorder.after stages seen = seen ++ stages := by
  induction stages generalizing seen with
  | nil => simp
  | cons stage stages ih => simp [recorder_tell, ih]

theorem both_tell (a : Observer σ) (b : Observer τ) (s : σ) (t : τ) (stage : Stage) :
    ((a.both b).tell (s, t) stage).value = ((a.tell s stage).value, (b.tell t stage).value) := by
  cases stage <;> rfl

/-- Of two observers side by side each ends where it would end alone. -/
theorem both_after (a : Observer σ) (b : Observer τ) (stages : List Stage) (s : σ) (t : τ) :
    (a.both b).after stages (s, t) = (a.after stages s, b.after stages t) := by
  induction stages generalizing s t with
  | nil => rfl
  | cons stage stages ih => simp only [after_cons, both_tell, ih]

end Observer

end Agreement
