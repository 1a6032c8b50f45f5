import NativeBinding.Native.Host

/-! Computations that consult the host and change a state. -/
namespace NativeBinding

/-- A computation on states of type `σ`. It always ends, and reads the host without changing it. -/
def Action (σ α : Type) : Type := Host → σ → α × σ

namespace Action

variable {σ α β : Type}

/-- The answer and the state that a computation ends with. -/
def run (x : Action σ α) (host : Host) (s : σ) : α × σ := x host s

instance : Monad (Action σ) where
  pure a := fun _ s => (a, s)
  bind x f := fun host s =>
    let r := x host s
    f r.1 host r.2

instance : MonadStateOf σ (Action σ) where
  get := fun _ s => (s, s)
  set s := fun _ _ => ((), s)
  modifyGet f := fun _ s => f s

instance : MonadReaderOf Host (Action σ) where
  read := fun host s => (host, s)

instance : LawfulMonad (Action σ) :=
  LawfulMonad.mk' (Action σ)
    (fun _ => rfl) (fun _ _ => rfl) (fun _ _ _ => rfl)

/-- A computation on one part of the state, which leaves the rest alone. -/
def onPart {τ : Type} (part : σ → τ) (put : τ → σ → σ) (x : Action τ α) : Action σ α :=
  fun host s =>
    let r := x host (part s)
    (r.1, put r.2 s)

variable (host : Host) (s : σ)

@[simp] theorem run_pure (a : α) : (pure a : Action σ α).run host s = (a, s) := rfl

@[simp] theorem run_bind (x : Action σ α) (f : α → Action σ β) :
    (x >>= f).run host s = (f (x.run host s).1).run host (x.run host s).2 := rfl

@[simp] theorem run_map (f : α → β) (x : Action σ α) :
    (f <$> x).run host s = (f (x.run host s).1, (x.run host s).2) := rfl

@[simp] theorem run_get : (get : Action σ σ).run host s = (s, s) := rfl

@[simp] theorem run_set (t : σ) : (set t : Action σ PUnit).run host s = ((), t) := rfl

@[simp] theorem run_modify (f : σ → σ) : (modify f : Action σ PUnit).run host s = ((), f s) := rfl

@[simp] theorem run_modifyGet (f : σ → α × σ) :
    (modifyGet f : Action σ α).run host s = f s := rfl

@[simp] theorem run_read : (read : Action σ Host).run host s = (host, s) := rfl

@[simp] theorem run_onPart {τ : Type} (part : σ → τ) (put : τ → σ → σ) (x : Action τ α) :
    (x.onPart part put).run host s =
      ((x.run host (part s)).1, put (x.run host (part s)).2 s) := rfl

theorem run_ite (c : Prop) [Decidable c] (x y : Action σ α) :
    (if c then x else y).run host s = if c then x.run host s else y.run host s := by
  split <;> rfl

end Action

end NativeBinding
