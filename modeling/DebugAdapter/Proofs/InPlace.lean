import DebugAdapter.Failure

/-!
# Work in place

A program that works on a state in place leaves what it has done when it fails
on the way: nothing but the program itself puts anything back. An operation that
computes its outcome from the state before it is compared with such a program
to see that failures leave no trace.
-/

namespace DebugAdapter

/-- Work on a state in place: what has been done when it fails stays done. -/
abbrev InPlace (σ : Type) := EStateM Failure σ

namespace InPlace

section
variable {σ : Type} (now : σ)

@[simp] theorem bind_apply (x : InPlace σ α) (f : α → InPlace σ β) :
    (x >>= f) now = match x now with
      | .ok a next => f a next
      | .error failure next => .error failure next := by
  cases h : x now <;> simp [bind, EStateM.bind, h]

@[simp] theorem pure_apply (a : α) : (pure a : InPlace σ α) now = .ok a now := rfl

@[simp] theorem throw_apply (failure : Failure) :
    (throw failure : InPlace σ α) now = .error failure now := rfl

@[simp] theorem tryCatch_apply (x : InPlace σ α) (handle : Failure → InPlace σ α) :
    (tryCatch x handle) now = match x now with
      | .ok a next => .ok a next
      | .error failure next => handle failure next := by
  show EStateM.tryCatch x handle now = _
  delta EStateM.tryCatch
  cases x now <;> rfl

@[simp] theorem map_apply (f : α → β) (x : InPlace σ α) :
    (f <$> x) now = match x now with
      | .ok a next => .ok (f a) next
      | .error failure next => .error failure next := by
  cases h : x now <;> simp [Functor.map, EStateM.map, h]

@[simp] theorem discard_apply (x : InPlace σ α) :
    (discard x) now = match x now with
      | .ok _ next => .ok () next
      | .error failure next => .error failure next := by
  cases h : x now <;> simp [discard, Functor.mapConst, EStateM.map, h]

end

-- ---------------------------------------------------------------------------
-- Outcomes that are computed
-- ---------------------------------------------------------------------------

@[simp] theorem ok_bind (a : α) (f : α → Except ε β) : (Except.ok a >>= f) = f a := rfl

@[simp] theorem error_bind (e : ε) (f : α → Except ε β) :
    (Except.error e >>= f) = .error e := rfl

@[simp] theorem throw_eq (e : ε) : (throw e : Except ε α) = .error e := rfl

@[simp] theorem pure_eq (a : α) : (pure a : Except ε α) = .ok a := rfl

end InPlace

end DebugAdapter
