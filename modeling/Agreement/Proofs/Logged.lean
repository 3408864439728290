import Agreement.Log

/-!
# Reporting computations

The value of a composite computation comes from the values of its parts alone, and its events are
those of its parts in order.
-/

namespace Agreement.Logged

variable {α β : Type}

@[ext]
theorem ext {x y : Logged α} (hvalue : x.value = y.value) (hevents : x.events = y.events) :
    x = y := by
  cases x; cases y; cases hvalue; cases hevents; rfl

/-! ## Values -/

@[simp]
theorem value_pure (a : α) : (pure a : Logged α).value = a := rfl

@[simp]
theorem value_bind (x : Logged α) (f : α → Logged β) : (x >>= f).value = (f x.value).value := rfl

@[simp]
theorem value_map (f : α → β) (x : Logged α) : (f <$> x).value = f x.value := rfl

@[simp]
theorem value_report (e : Event) : (report e).value = () := rfl

/-! ## Events -/

@[simp]
theorem events_pure (a : α) : (pure a : Logged α).events = [] := rfl

@[simp]
theorem events_bind (x : Logged α) (f : α → Logged β) :
    (x >>= f).events = x.events ++ (f x.value).events := rfl

@[simp]
theorem events_map (f : α → β) (x : Logged α) : (f <$> x).events = x.events :=
  List.append_nil _

@[simp]
theorem events_report (e : Event) : (report e).events = [e] := rfl

/-! ## Laws -/

instance : LawfulMonad Logged :=
  LawfulMonad.mk' Logged (fun _ => by ext1 <;> simp) (fun _ _ => by ext1 <;> simp)
    (fun _ _ _ => by ext1 <;> simp)

@[simp]
theorem value_mapM (f : α → Logged β) (as : List α) :
    (as.mapM f).value = as.map fun a => (f a).value := by
  induction as with
  | nil => rfl
  | cons a as ih => simp [List.mapM_cons, ih]

@[simp]
theorem events_mapM (f : α → Logged β) (as : List α) :
    (as.mapM f).events = as.flatMap fun a => (f a).events := by
  induction as with
  | nil => rfl
  | cons a as ih => simp [List.mapM_cons, ih]

end Agreement.Logged
