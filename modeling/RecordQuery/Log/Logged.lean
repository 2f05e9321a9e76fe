/-!
# Logged results

A result together with the lines that were written to the log on the way to it.  An activity made up
of several others writes their lines one after the other, and after a failure it goes no further.
-/

namespace RecordQuery

/-- A value and the lines of the log that led to it. -/
structure Logged (α : Type) where
  value : α
  log : List String

namespace Logged

variable {α β ε : Type}

def silent (a : α) : Logged α := ⟨a, []⟩

def map (f : α → β) (l : Logged α) : Logged β := ⟨f l.value, l.log⟩

instance : Monad Logged where
  pure := silent
  bind l next := ⟨(next l.value).value, l.log ++ (next l.value).log⟩

/-- The next activity, which takes the value of the one before unless that failed. -/
def andThen (l : Logged (Except ε α)) (next : α → Logged (Except ε β)) : Logged (Except ε β) :=
  match l.value with
  | .error e => ⟨.error e, l.log⟩
  | .ok a => ⟨(next a).value, l.log ++ (next a).log⟩

def mapError {δ : Type} (f : ε → δ) (l : Logged (Except ε α)) : Logged (Except δ α) :=
  ⟨l.value.mapError f, l.log⟩

/-! ### Activities in a row -/

@[simp] theorem value_pure (a : α) : (pure a : Logged α).value = a := rfl

@[simp] theorem log_pure (a : α) : (pure a : Logged α).log = [] := rfl

@[simp] theorem value_bind (l : Logged α) (next : α → Logged β) :
    (l >>= next).value = (next l.value).value :=
  rfl

@[simp] theorem log_bind (l : Logged α) (next : α → Logged β) :
    (l >>= next).log = l.log ++ (next l.value).log :=
  rfl

/-- A failure is the end of it. -/
theorem andThen_eq_bind (l : Logged (Except ε α)) (next : α → Logged (Except ε β)) :
    l.andThen next = l >>= fun
      | .error e => silent (.error e)
      | .ok a => next a := by
  obtain ⟨value, log⟩ := l
  cases value with
  | error e => exact congrArg (Logged.mk _) (List.append_nil log).symm
  | ok a => rfl

theorem log_forM (items : List α) (f : α → Logged Unit) :
    (items.forM f).log = items.flatMap fun a => (f a).log := by
  induction items with
  | nil => rfl
  | cons a items ih => rw [List.flatMap_cons, ← ih]; rfl

end Logged

end RecordQuery
