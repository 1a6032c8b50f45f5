import NativeBinding.OpenCL.FunctionTable

/-!
How the names of a table are resolved: one after the other, up to the first that has no address. A
table that comes of it answers for its names as the lookup did.
-/
namespace NativeBinding.OpenCL

variable {answer : String → Address} {name f : String} {functions asked : List String}
  {outcome : Except String FunctionTable}

/-- What comes of the names of a table if each has this address, and which of them are asked for:
all, or those up to the first that is missing. -/
inductive Resolves (answer : String → Address) (name : String) :
    List String → List String → Except String FunctionTable → Prop where
  | complete {functions : List String} (hall : ∀ f ∈ functions, answer f ≠ .null) :
    Resolves answer name functions functions
      (.ok { name, functions := functions.map fun f => (f, answer f) })
  | missing {before : List String} {f : String} (hbefore : ∀ g ∈ before, answer g ≠ .null)
    (hmissing : answer f = .null) (after : List String) :
    Resolves answer name (before ++ f :: after) (before ++ [f]) (.error f)

namespace FunctionTable

/-- A table with one more function in front. -/
def cons (f : String) (a : Address) (t : FunctionTable) : FunctionTable :=
  { t with functions := (f, a) :: t.functions }

/-- A lookup that answers by the name alone, whatever it does besides on a visit. -/
def answering {m : Type → Type} [Monad m] (visit : String → m PUnit) (answer : String → Address)
    (f : String) : m Address := do
  visit f
  return answer f

/-- A visit that notes the name behind those that were noted before. -/
def noting (f : String) : StateM (List String) PUnit := modify (· ++ [f])

theorem run_forM_noting (asked noted : List String) :
    (asked.forM noting).run noted = ((), noted ++ asked) := by
  induction asked generalizing noted with
  | nil =>
    rw [List.append_nil]
    rfl
  | cons f asked ih =>
    have hstep : ((f :: asked).forM noting).run noted =
        (asked.forM noting).run (noted ++ [f]) := rfl
    rw [hstep, ih, List.append_assoc]
    rfl

end FunctionTable

namespace Resolves

/-- A name that resolves is asked for before those that are asked for after it. -/
theorem cons (hf : answer f ≠ .null) (h : Resolves answer name functions asked outcome) :
    Resolves answer name (f :: functions) (f :: asked) (outcome.map (.cons f (answer f))) := by
  cases h with
  | complete hall => exact .complete (List.forall_mem_cons.mpr ⟨hf, hall⟩)
  | missing hbefore hmissing after =>
    exact .missing (List.forall_mem_cons.mpr ⟨hf, hbefore⟩) hmissing after

theorem ok_iff (h : Resolves answer name functions asked outcome) :
    (∃ t, outcome = .ok t) ↔ ∀ f ∈ functions, answer f ≠ .null := by
  cases h with
  | complete hall => exact ⟨fun _ => hall, fun _ => ⟨_, rfl⟩⟩
  | missing hbefore hmissing after =>
    constructor
    · rintro ⟨t, ⟨⟩⟩
    · intro hall
      exact absurd hmissing (hall _ (by simp))

end Resolves

namespace FunctionTable

section Steps

variable {m : Type → Type} [Monad m] [LawfulMonad m] (visit : String → m PUnit)

theorem resolve_nil : resolve name [] (answering visit answer) =
    return .ok { name, functions := [] } := by
  simp [resolve, resolveAll]

/-- Nothing is looked up behind a name that is missing. -/
theorem resolve_cons_of_null (hf : answer f = .null) (rest : List String) :
    resolve name (f :: rest) (answering visit answer) = do
      visit f
      return .error f := by
  simp [resolve, resolveAll, answering, hf, Address.isNull]

theorem resolve_cons_of_ne (hf : answer f ≠ .null) (rest : List String) :
    resolve name (f :: rest) (answering visit answer) = do
      visit f
      let outcome ← resolve name rest (answering visit answer)
      return outcome.map (cons f (answer f)) := by
  have hsome : (answer f).isNull = false := Bool.eq_false_iff.mpr (mt Address.isNull_iff.mp hf)
  simp only [resolve, resolveAll, answering, bind_assoc, pure_bind, hsome, Bool.false_eq_true,
    if_false]
  refine bind_congr fun _ => bind_congr fun found => ?_
  cases found <;> simp [Except.map, cons]

end Steps

/-- Which names are asked for and what comes of them does not depend on what else a lookup does. -/
theorem resolve_resolves (answer : String → Address) (name : String) (functions : List String) :
    ∃ asked outcome, Resolves answer name functions asked outcome ∧
      ∀ {m : Type → Type} [Monad m] [LawfulMonad m] (visit : String → m PUnit),
        resolve name functions (answering visit answer) = do
          asked.forM visit
          return outcome := by
  have hnone : ∀ f ∈ ([] : List String), answer f ≠ .null := by simp
  induction functions with
  | nil =>
    refine ⟨[], _, .complete hnone, ?_⟩
    intro m _ _ visit
    simp [resolve_nil]
  | cons f functions ih =>
    by_cases hf : answer f = .null
    · refine ⟨[f], .error f, .missing hnone hf functions, ?_⟩
      intro m _ _ visit
      simp [resolve_cons_of_null visit hf]
    · obtain ⟨asked, outcome, hresolves, hrun⟩ := ih
      refine ⟨f :: asked, _, hresolves.cons hf, ?_⟩
      intro m _ _ visit
      simp [resolve_cons_of_ne visit hf, hrun]

/-- Repeated names have one address, so it does not matter which entry is found. -/
theorem lookup_map (answer : String → Address) (functions : List String) (f : String) :
    (functions.map fun f => (f, answer f)).lookup f =
      if f ∈ functions then some (answer f) else none := by
  induction functions with
  | nil => rfl
  | cons g functions ih =>
    rw [List.map_cons, List.lookup_cons, ih]
    by_cases hfg : f = g
    · simp [hfg]
    · simp [hfg, beq_false_of_ne hfg]

theorem get_of_mem {t : FunctionTable}
    (h : t.functions = functions.map fun f => (f, answer f)) (hf : f ∈ functions) :
    t.get f = answer f := by
  rw [get, h, lookup_map, if_pos hf]
  rfl

theorem get_of_notMem {t : FunctionTable}
    (h : t.functions = functions.map fun f => (f, answer f)) (hf : f ∉ functions) :
    t.get f = .null := by
  rw [get, h, lookup_map, if_neg hf]
  rfl

/-- The names of a table are asked for in order, each as often as it is listed, until one is
missing. If none is, the table has the address of each of them and no other. -/
theorem resolve_stopsAtMissing (answer : String → Address) (name : String)
    (functions : List String) :
    ∃ asked outcome, Resolves answer name functions asked outcome ∧
      (resolve name functions (answering noting answer)).run [] = (outcome, asked) ∧
      (∀ {m : Type → Type} [Monad m] [LawfulMonad m] (visit : String → m PUnit),
        resolve name functions (answering visit answer) = do
          asked.forM visit
          return outcome) ∧
      ((∃ t, outcome = .ok t) ↔ ∀ f ∈ functions, answer f ≠ .null) ∧
      ∀ t, outcome = .ok t → (∀ f ∈ functions, t.get f = answer f ∧ t.get f ≠ .null) ∧
        ∀ f, f ∉ functions → t.get f = .null := by
  obtain ⟨asked, outcome, hresolves, hrun⟩ := resolve_resolves answer name functions
  refine ⟨asked, outcome, hresolves, ?_, hrun, hresolves.ok_iff, ?_⟩
  · have hnoted := run_forM_noting asked []
    rw [hrun]
    exact congrArg (fun r => (outcome, r.2)) hnoted
  · intro t ht
    subst ht
    cases hresolves with
    | complete hall =>
      constructor
      · intro f hf
        have hget : get { name, functions := functions.map fun f => (f, answer f) } f = answer f :=
          get_of_mem rfl hf
        exact ⟨hget, hget ▸ hall f hf⟩
      · intro f hf
        exact get_of_notMem rfl hf

end FunctionTable

end NativeBinding.OpenCL
