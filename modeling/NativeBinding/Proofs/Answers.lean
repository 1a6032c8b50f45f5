import NativeBinding.OpenCL.Session

/-!
What lookups and queries answer. The answers depend on the host alone: nothing that happens to the
world before changes them.
-/
namespace NativeBinding

variable (host : Host) (w : World)

@[simp] theorem run_theLibrary {σ : Type} (k : LibraryId) (s : σ) :
    (theLibrary k : Action σ NativeLibrary).run host s = (host.library k, s) := rfl

/-- The outcome of an attempt that goes on after another. -/
theorem Attempt.run_bind_fst {σ α β : Type} (x : Attempt σ α) (f : α → Attempt σ β) (s : σ) :
    ((x >>= f).run host s).1 =
      match (x.run host s).1 with
      | .ok a => ((f a).run host (x.run host s).2).1
      | .error failure => .error failure := by
  rw [Attempt.run_bind]
  rcases x.run host s with ⟨_ | _, t⟩ <;> rfl

/-- An attempt goes on from where the first part of it ended, if that succeeded. -/
theorem Attempt.run_bind_of_ok {σ α β : Type} {x : Attempt σ α} {a : α} {s : σ}
    (h : (x.run host s).1 = .ok a) (f : α → Attempt σ β) :
    (x >>= f).run host s = (f a).run host (x.run host s).2 := by
  rw [Attempt.run_bind]
  rcases hrun : x.run host s with ⟨r, t⟩
  rw [hrun] at h
  obtain rfl : r = .ok a := h
  rfl

/-- The answer of a driver that reports a text together with the NUL that ends it. -/
def InfoReport.ofText (text : String) : InfoReport :=
  let bytes := Text.Utf8.encode text ++ [0]
  { size := bytes.length, bytes }

/-- What a library answers about a name. -/
def SharedLibrary.answer (l : SharedLibrary) (name : String) : Address :=
  match l.opened, LibraryName.native? name with
  | some opened, .ok symbol => (host.library opened.library).symbol symbol
  | _, _ => .null

namespace Resolver

/-- What the lookup that needs no platform answers. -/
def genericAnswer (r : Resolver) (name : String) : Address :=
  match r.generic with
  | some e => (host.library e.library).extension name
  | none => .null

/-- What the lookup for one platform answers. -/
def platformAnswer (r : Resolver) (p : PlatformId) (name : String) : Address :=
  match r.perPlatform with
  | some e => (host.library e.library).platformExtension p name
  | none => .null

/-- What the lookup that the strategy prescribes answers. -/
def strategyAnswer (r : Resolver) (name : String) : Address :=
  match r.strategy with
  | .generic => r.genericAnswer host name
  | .perPlatform p => r.platformAnswer host p name

theorem askPlatform_answer (r : Resolver) (p : PlatformId) (name : String) :
    ((r.askPlatform p name).run host w).1 = r.platformAnswer host p name := by
  unfold askPlatform platformAnswer
  cases r.perPlatform <;> rfl

theorem ask_answer (r : Resolver) (name : String) :
    ((r.ask name).run host w).1 = r.strategyAnswer host name := by
  unfold ask strategyAnswer
  cases r.strategy with
  | generic =>
    unfold askGeneric genericAnswer
    cases r.generic <;> rfl
  | perPlatform p => exact askPlatform_answer host w r p name

end Resolver

namespace Provider

/-- What a provider answers about a name. -/
def answer : Provider → String → Address
  | .supplied p, name => (host.library p.library).symbol name
  | .shared l, name => l.answer host name
  | .resolver r inner, name =>
    if r.accepts name then (r.strategyAnswer host name).orElse (answer inner name) else .null

/-- What a provider answers about a name of one platform. -/
def platformAnswer (provider : Provider) (p : PlatformId) (name : String) : Address :=
  match provider with
  | .supplied s => if s.isFull then (host.library s.library).platformExtension p name else .null
  | .shared _ => .null
  | .resolver r _ => if r.accepts name then r.platformAnswer host p name else .null

/-- The native function that a provider answers with under its name. -/
def entryAnswer (provider : Provider) (f : NativeFunction) : Option (Entry f) :=
  (provider.answer host f.name).entryOf f

/-- The provider answers the name of a native function with null. -/
def lacks (provider : Provider) (f : NativeFunction) : Bool :=
  (provider.answer host f.name).isNull

theorem isNull_answer (provider : Provider) (f : NativeFunction) :
    (provider.answer host f.name).isNull = provider.lacks host f := by
  rw [lacks]

theorem entryAnswer_eq_none_iff {provider : Provider} {f : NativeFunction} :
    provider.entryAnswer host f = none ↔ provider.lacks host f = true :=
  Address.entryOf_eq_none_iff

theorem lacks_eq_false_iff {provider : Provider} {f : NativeFunction} :
    provider.lacks host f = false ↔ ∃ e, provider.entryAnswer host f = some e := by
  rw [← Option.ne_none_iff_exists', ne_eq, entryAnswer_eq_none_iff, Bool.not_eq_true]

theorem lacks_eq_isNone (provider : Provider) (f : NativeFunction) :
    provider.lacks host f = (provider.entryAnswer host f).isNone := by
  rw [Bool.eq_iff_iff, Option.isNone_iff_eq_none, entryAnswer_eq_none_iff]

theorem address_answer (provider : Provider) (name : String) :
    ((provider.address name).run host w).1 = provider.answer host name := by
  induction provider generalizing w with
  | supplied p => rfl
  | shared l =>
    simp only [address, answer, SharedLibrary.address, SharedLibrary.answer]
    cases l.opened <;> cases LibraryName.native? name <;> rfl
  | resolver r inner ih =>
    simp only [address, answer]
    split
    · have hask := r.ask_answer host w name
      simp only [Action.run_bind, Action.run_ite, hask, Address.orElse]
      split
      · exact ih _
      · rfl
    · rfl

theorem addressFor_answer (provider : Provider) (p : PlatformId) (name : String) :
    ((provider.addressFor p name).run host w).1 = provider.platformAnswer host p name := by
  cases provider with
  | supplied s =>
    simp only [addressFor, platformAnswer]
    split <;> rfl
  | shared l => rfl
  | resolver r inner =>
    simp only [addressFor, platformAnswer]
    split
    · exact r.askPlatform_answer host w p name
    · rfl

theorem require_answer (provider : Provider) (name : String) :
    ((provider.require name).run host w).1 =
      if (provider.answer host name).isNull then .error (.missingCoreFunction name)
      else .ok (provider.answer host name) := by
  simp only [require, Attempt.run_bind_fst, Attempt.run_liftM, address_answer]
  split <;> rfl

theorem entryOf_answer (provider : Provider) (f : NativeFunction) :
    ((provider.entryOf f).run host w).1 = provider.entryAnswer host f := by
  simp [entryOf, entryAnswer, address_answer]

theorem requireEntry_answer (provider : Provider) (f : NativeFunction) :
    ((provider.requireEntry f).run host w).1 =
      match provider.entryAnswer host f with
      | some e => .ok e
      | none => .error (.missingCoreFunction f.name) := by
  simp only [requireEntry, Attempt.run_bind_fst, Attempt.run_liftM, entryOf_answer]
  cases provider.entryAnswer host f <;> rfl

end Provider

namespace OpenCL

/-- The number of platforms that a driver reports; none if the call fails. -/
def reportedCount (e : Entry .platformIds) : Nat :=
  let report := (host.library e.library).platforms
  if report.countStatus = Status.success then report.count else 0

/-- The platforms that a driver reports. -/
def reportedIds (e : Entry .platformIds) : List PlatformId :=
  let report := (host.library e.library).platforms
  if reportedCount host e = 0 then []
  else if report.fetchStatus = Status.success then
    (List.range (min report.returned (reportedCount host e))).map fun i => report.ids.getD i .null
  else []

/-- The text that a driver reports for a parameter of a platform. -/
def reportedText (e : Entry .platformInfo) (p : PlatformId) (parameter : PlatformParameter) :
    Option String :=
  let report := (host.library e.library).info p parameter
  if report.sizeStatus ≠ Status.success then none
  else if report.size.bytes = 0 then some ""
  else if report.dataStatus = Status.success then
    some (Text.Utf8.nativeText (report.bytes.take report.size.bytes))
  else none

theorem platformCount_answer (e : Entry .platformIds) :
    ((platformCount (some e)).run host w).1 = reportedCount host e := rfl

theorem platformIds_answer (e : Entry .platformIds) :
    ((platformIds (some e)).run host w).1 = reportedIds host e := by
  have hcount := platformCount_answer host w e
  simp only [platformIds, Action.run_bind, hcount, reportedIds]
  cases reportedCount host e <;> rfl

theorem platformText_answer (e : Entry .platformInfo) (p : PlatformId)
    (parameter : PlatformParameter) :
    ((platformText (some e) p parameter).run host w).1 = reportedText host e p parameter := by
  unfold platformText reportedText
  simp only [Native.infoSize, Native.infoData, Action.run_bind, run_theLibrary, Action.run_pure]
  by_cases hsize : ((host.library e.library).info p parameter).sizeStatus = Status.success
  · by_cases hzero : ((host.library e.library).info p parameter).size.bytes = 0
    · simp [hsize, hzero]
    · simp [hsize, hzero]
      rfl
  · simp [hsize]

end OpenCL

/-- What the computation answers does not depend on what happened before. -/
def Action.Steady {α : Type} (x : Action World α) : Prop :=
  ∀ host w w', (x.run host w).1 = (x.run host w').1

/-- The same of an attempt and its outcome. -/
def Attempt.Steady {α : Type} (x : Attempt World α) : Prop := x.outcome.Steady

section Steady

variable {α β : Type}

theorem Action.Steady.pure (a : α) : Steady (Pure.pure a) := fun _ _ _ => rfl

theorem Action.Steady.bind {x : Action World α} {f : α → Action World β} (hx : x.Steady)
    (hf : ∀ a, (f a).Steady) : (x >>= f).Steady := by
  intro host w w'
  rw [run_bind, run_bind, hx host w w']
  exact hf _ host _ _

theorem Attempt.Steady.pure (a : α) : Steady (Pure.pure a) := fun _ _ _ => rfl

theorem Attempt.Steady.throw (failure : Failure) :
    Steady (MonadExcept.throw failure : Attempt World α) := fun _ _ _ => rfl

theorem Attempt.Steady.lift {x : Action World α} (hx : x.Steady) :
    Steady (liftM x : Attempt World α) := by
  intro host w w'
  exact congrArg Except.ok (hx host w w')

theorem Attempt.Steady.bind {x : Attempt World α} {f : α → Attempt World β} (hx : x.Steady)
    (hf : ∀ a, (f a).Steady) : (x >>= f).Steady := by
  intro host w w'
  have hfirst : (x.run host w).1 = (x.run host w').1 := hx host w w'
  rw [run_outcome, run_outcome, run_bind_fst, run_bind_fst, hfirst]
  cases (x.run host w').1 with
  | error failure => rfl
  | ok a => exact hf a host _ _

end Steady

namespace Provider

variable (provider : Provider)

theorem address_steady (name : String) : (provider.address name).Steady := by
  intro host w w'
  rw [address_answer, address_answer]

theorem addressFor_steady (p : PlatformId) (name : String) :
    (provider.addressFor p name).Steady := by
  intro host w w'
  rw [addressFor_answer, addressFor_answer]

theorem entryOf_steady (f : NativeFunction) : (provider.entryOf f).Steady := by
  intro host w w'
  rw [entryOf_answer, entryOf_answer]

theorem requireEntry_steady (f : NativeFunction) : (provider.requireEntry f).Steady := by
  intro host w w'
  rw [Attempt.run_outcome, Attempt.run_outcome, requireEntry_answer, requireEntry_answer]

end Provider

namespace OpenCL

theorem platformIds_steady (entry : Option (Entry .platformIds)) : (platformIds entry).Steady := by
  intro host w w'
  cases entry with
  | none => rfl
  | some e => rw [platformIds_answer, platformIds_answer]

theorem platformText_steady (entry : Option (Entry .platformInfo)) (p : PlatformId)
    (parameter : PlatformParameter) : (platformText entry p parameter).Steady := by
  intro host w w'
  cases entry with
  | none => rfl
  | some e => rw [platformText_answer, platformText_answer]

theorem FunctionTable.resolveAll_steady {lookup : String → Action World Address}
    (h : ∀ name, (lookup name).Steady) (functions : List String) :
    (resolveAll lookup functions).Steady := by
  induction functions with
  | nil => exact .pure _
  | cons f fs ih =>
    refine (h f).bind fun found => ?_
    split
    · exact .pure _
    · refine ih.bind fun rest => ?_
      cases rest with
      | error missing => exact .pure _
      | ok rest => exact .pure _

theorem Feature.resolve_steady {lookup : String → Action World Address}
    (h : ∀ name, (lookup name).Steady) (feature : Feature) : (feature.resolve lookup).Steady := by
  refine (FunctionTable.resolveAll_steady h _).bind fun found => ?_
  cases found with
  | error missing => exact .pure _
  | ok functions => exact .pure _

theorem CapabilitySet.gate_steady {α : Type} (s : CapabilitySet) (extension : String)
    (found : Except String α) : (s.gate extension found).Steady := by
  unfold gate
  split
  · cases found with
    | ok a => exact .pure _
    | error missing => exact fun _ _ _ => rfl
  · exact .pure _

namespace Capabilities

variable (provider : Provider)

theorem platformAddress_steady (p : PlatformId) (name : String) :
    (platformAddress provider p name).Steady := by
  refine (provider.addressFor_steady p name).bind fun found => ?_
  split
  · exact provider.address_steady name
  · exact .pure _

theorem platformTables_steady (p : PlatformId) (s : CapabilitySet) (features : List Feature) :
    (platformTables provider p s features).Steady := by
  induction features with
  | nil => exact .pure _
  | cons feature features ih =>
    exact (feature.resolve_steady (platformAddress_steady provider p)).bind fun found =>
      (s.gate_steady _ found).bind fun _ => ih.bind fun _ => .pure _

theorem ofPlatform_steady (p : PlatformId) : (ofPlatform provider p).Steady := by
  refine (provider.requireEntry_steady _).bind fun e => ?_
  refine (Attempt.Steady.lift (platformText_steady _ p .version)).bind fun text => ?_
  cases text with
  | none => exact .throw _
  | some text =>
    cases hversion : Version.parse text versionWord <;> simp only [hversion]
    · exact .throw _
    · exact (Attempt.Steady.lift (platformText_steady _ p .extensions)).bind fun names =>
        (Attempt.Steady.lift (platformTables_steady provider p _ _)).bind fun _ => .pure _

end Capabilities

end OpenCL

end NativeBinding
