import NativeBinding.Binding.Failure
import NativeBinding.Native.Action

/-! Computations that may fail. -/
namespace NativeBinding

/-- A computation that may fail. What it changed before it failed stays changed. -/
structure Attempt (σ α : Type) where
  /-- The attempt with this outcome. -/
  ofOutcome ::
  /-- The outcome, as a computation that does not fail. -/
  outcome : Action σ (Except Failure α)

namespace Attempt

variable {σ τ α β : Type}

/-- The outcome and the state that an attempt ends with. -/
def run (x : Attempt σ α) (host : Host) (s : σ) : Except Failure α × σ := x.outcome.run host s

instance : Monad (Attempt σ) where
  pure a := ofOutcome (pure (.ok a))
  bind x f := ofOutcome do
    match ← x.outcome with
    | .ok a => (f a).outcome
    | .error failure => return .error failure

instance : MonadExceptOf Failure (Attempt σ) where
  throw failure := ofOutcome (pure (.error failure))
  tryCatch x handle := ofOutcome do
    match ← x.outcome with
    | .ok a => return .ok a
    | .error failure => (handle failure).outcome

instance : MonadLift (Action σ) (Attempt σ) := ⟨fun x => ofOutcome (.ok <$> x)⟩

/-- An attempt on one part of the state, which leaves the rest alone. -/
def onPart (part : σ → τ) (put : τ → σ → σ) (x : Attempt τ α) : Attempt σ α :=
  ofOutcome (x.outcome.onPart part put)

variable (host : Host) (s : σ)

@[simp] theorem run_outcome (x : Attempt σ α) : x.outcome.run host s = x.run host s := rfl

@[simp] theorem run_ofOutcome (x : Action σ (Except Failure α)) :
    (ofOutcome x).run host s = Action.run x host s := rfl

@[simp] theorem run_pure (a : α) : (pure a : Attempt σ α).run host s = (.ok a, s) := rfl

@[simp] theorem run_throw (failure : Failure) :
    (throw failure : Attempt σ α).run host s = (.error failure, s) := rfl

@[simp] theorem run_liftM (x : Action σ α) :
    (liftM x : Attempt σ α).run host s = (.ok (x.run host s).1, (x.run host s).2) := rfl

@[simp] theorem run_onPart (part : σ → τ) (put : τ → σ → σ) (x : Attempt τ α) :
    (x.onPart part put).run host s =
      ((x.run host (part s)).1, put (x.run host (part s)).2 s) := rfl

theorem run_ite (c : Prop) [Decidable c] (x y : Attempt σ α) :
    (if c then x else y).run host s = if c then x.run host s else y.run host s := by
  split <;> rfl

theorem run_bind (x : Attempt σ α) (f : α → Attempt σ β) :
    (x >>= f).run host s =
      match x.run host s with
      | (.ok a, t) => (f a).run host t
      | (.error failure, t) => (.error failure, t) := by
  rcases h : x.run host s with ⟨r, t⟩
  change (match (x.run host s).1 with
    | .ok a => (f a).outcome
    | .error failure => pure (.error failure) : Action σ (Except Failure β)).run host
      (x.run host s).2 = _
  rw [h]
  cases r <;> rfl

theorem run_tryCatch (x : Attempt σ α) (handle : Failure → Attempt σ α) :
    (tryCatch x handle).run host s =
      match x.run host s with
      | (.ok a, t) => (.ok a, t)
      | (.error failure, t) => (handle failure).run host t := by
  rcases h : x.run host s with ⟨r, t⟩
  change (match (x.run host s).1 with
    | .ok a => pure (.ok a)
    | .error failure => (handle failure).outcome : Action σ (Except Failure α)).run host
      (x.run host s).2 = _
  rw [h]
  cases r <;> rfl

end Attempt

end NativeBinding
