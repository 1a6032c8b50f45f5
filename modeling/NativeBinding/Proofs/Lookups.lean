import Mathlib.Order.Defs.Unbundled
import NativeBinding.OpenCL.Session
import NativeBinding.OpenAL.ErrorFlag
import NativeBinding.LibOVR.Runtime
import NativeBinding.Proofs.Life

/-!
Lookups and native calls. They open nothing and end nothing, and names are looked up in one place
only: what the provider draws on.
-/
namespace NativeBinding

/-- Every run of the computation relates the state before to the state after. -/
def Action.Within {σ α : Type} (R : σ → σ → Prop) (x : Action σ α) : Prop :=
  ∀ host s, R s (x.run host s).2

/-- The same of an attempt, whether it fails or not. -/
def Attempt.Within {σ α : Type} (R : σ → σ → Prop) (x : Attempt σ α) : Prop :=
  ∀ host s, R s (x.run host s).2

section Within

variable {σ α β : Type} {R : σ → σ → Prop} [IsPreorder σ R]

namespace Action.Within

theorem pure (a : α) : Within R (Pure.pure a : Action σ α) := fun _ s => Std.Refl.refl s

theorem bind {x : Action σ α} {f : α → Action σ β} (hx : x.Within R) (hf : ∀ a, (f a).Within R) :
    (x >>= f).Within R := by
  intro host s
  rw [run_bind]
  exact IsTrans.trans _ _ _ (hx host s) (hf _ host _)

omit [IsPreorder σ R] in
theorem ite {c : Prop} [Decidable c] {x y : Action σ α} (hx : x.Within R) (hy : y.Within R) :
    (if c then x else y).Within R := by
  split
  · exact hx
  · exact hy

theorem get : (MonadState.get : Action σ σ).Within R := fun _ s => Std.Refl.refl s

theorem theLibrary (k : LibraryId) :
    (NativeBinding.theLibrary k : Action σ NativeLibrary).Within R :=
  fun _ s => Std.Refl.refl s

theorem forM {xs : List α} {f : α → Action σ Unit} (hf : ∀ a ∈ xs, (f a).Within R) :
    (xs.forM f).Within R := by
  induction xs with
  | nil => exact pure ()
  | cons a xs ih =>
    exact (hf a (by simp)).bind fun _ => ih fun a ha => hf a (List.mem_cons_of_mem _ ha)

end Action.Within

namespace Attempt.Within

theorem pure (a : α) : Within R (Pure.pure a : Attempt σ α) := fun _ s => Std.Refl.refl s

theorem throw (failure : Failure) : Within R (MonadExcept.throw failure : Attempt σ α) :=
  fun _ s => Std.Refl.refl s

omit [IsPreorder σ R] in
theorem lift {x : Action σ α} (hx : x.Within R) : (liftM x : Attempt σ α).Within R := hx

theorem bind {x : Attempt σ α} {f : α → Attempt σ β} (hx : x.Within R)
    (hf : ∀ a, (f a).Within R) : (x >>= f).Within R := by
  intro host s
  have hfirst := hx host s
  rw [run_bind]
  rcases hrun : x.run host s with ⟨_ | a, t⟩ <;> rw [hrun] at hfirst
  · exact hfirst
  · exact IsTrans.trans _ _ _ hfirst (hf a host t)

omit [IsPreorder σ R] in
theorem ite {c : Prop} [Decidable c] {x y : Attempt σ α} (hx : x.Within R) (hy : y.Within R) :
    (if c then x else y).Within R := by
  split
  · exact hx
  · exact hy

end Attempt.Within

end Within

/-- The event neither opens nor ends anything, and looks names up in `source` only. -/
def Event.IsLookup (source : Option Serial) (e : Event) : Prop :=
  e.opens? = none ∧ e.ends? = none ∧ (∀ k, e.consults? = some k → source = some k) ∧
    ¬ e.IsUnloadReport

/-- The event is a native call or a lookup in `source`. -/
def Event.IsQuery (source : Option Serial) : Event → Prop
  | .called .. => True
  | .lookedUp k .. | .lookedUpFor k .. | .symbolRead _ k _ => source = some k
  | .message .. | .opened .. | .closed .. | .released .. | .printed .. => False

namespace Event.IsQuery

variable {source : Option Serial} {e : Event}

theorem isLookup (h : e.IsQuery source) : e.IsLookup source := by
  refine ⟨?_, ?_, ?_, ?_⟩ <;> cases e <;>
    simp_all [IsQuery, opens?, ends?, consults?, IsUnloadReport]

theorem message?_eq_none (h : e.IsQuery source) : e.message? = none := by
  cases e <;> first | rfl | exact h.elim

end Event.IsQuery

/-- From one world to the other only events of this kind happen, and no number is given. -/
def Recording (p : Event → Prop) (w w' : World) : Prop :=
  ∃ es : List Event, w'.history = es.reverse ++ w.history ∧ w'.nextNumber = w.nextNumber ∧
    ∀ e ∈ es, p e

instance (p : Event → Prop) : IsPreorder World (Recording p) where
  refl w := ⟨[], rfl, rfl, by simp⟩
  trans := by
    rintro w w' w'' ⟨es, hhistory, hnumber, hes⟩ ⟨es', hhistory', hnumber', hes'⟩
    refine ⟨es ++ es', by simp [hhistory, hhistory'], hnumber'.trans hnumber, fun e he => ?_⟩
    rcases List.mem_append.mp he with he | he
    · exact hes e he
    · exact hes' e he

/-- All that happens from one world to the other are lookups in `source`, and calls. -/
abbrev Consulting (source : Option Serial) : World → World → Prop :=
  Recording fun e => e.IsLookup source

/-- All that happens are queries. -/
abbrev Querying (source : Option Serial) : World → World → Prop :=
  Recording fun e => e.IsQuery source

variable {host : Host} {k : Serial} {source : Option Serial} {w w' : World} {p : Event → Prop}

theorem Recording.mono {q : Event → Prop} (hpq : ∀ e, p e → q e) (h : Recording p w w') :
    Recording q w w' := by
  obtain ⟨es, hhistory, hnumber, hes⟩ := h
  exact ⟨es, hhistory, hnumber, fun e he => hpq e (hes e he)⟩

theorem Action.Within.consulting {α : Type} {x : Action World α} (h : x.Within (Querying source)) :
    x.Within (Consulting source) :=
  fun host w => (h host w).mono fun _ he => he.isLookup

theorem Attempt.Within.consulting {α : Type} {x : Attempt World α}
    (h : x.Within (Querying source)) : x.Within (Consulting source) :=
  fun host w => (h host w).mono fun _ he => he.isLookup

/-- What touches nothing but parts of the world that are not recorded. -/
theorem Recording.of_eq (hhistory : w'.history = w.history)
    (hnumber : w'.nextNumber = w.nextNumber) : Recording p w w' :=
  ⟨[], hhistory, hnumber, by simp⟩

theorem Life.after_lookups {life : Life} {es : List Event} (h : ∀ e ∈ es, e.IsLookup source)
    (hlive : source = some k → life = .live) : life.after k es = life := by
  induction es with
  | nil => rfl
  | cons e es ih =>
    obtain ⟨hopen, hend, hconsult, -⟩ := h e (by simp)
    have hstep : life.step k e = life := by
      simp only [step, hopen, hend, reduceCtorEq, if_false]
      split
      · simp [hlive (hconsult k ‹_›)]
      · rfl
    rw [after_cons, hstep]
    exact ih fun e he => h e (List.mem_cons_of_mem _ he)

/-- Objects that hold what they look names up in go on holding it. -/
theorem Recording.conduct (h : Recording p w w') (hp : ∀ e, p e → e.IsLookup source) (host : Host)
    {a : Nat} (hheld : source = some k → 0 < a) :
    ∃ es, Conduct host k a a w w' es ∧ ∀ e ∈ es, p e := by
  obtain ⟨es, hhistory, hnumber, hes⟩ := h
  have hlookup : ∀ e ∈ es, e.IsLookup source := fun e he => hp e (hes e he)
  refine ⟨es, ?_, hes⟩
  constructor
  case history => exact hhistory
  case numbers => omega
  case opened =>
    intro e he hopen
    simp [(hlookup e he).1] at hopen
  case reported =>
    clear hhistory hes
    induction es with
    | nil => exact .nil
    | cons e es ih =>
      obtain ⟨-, hend, -, hreport⟩ := hlookup e (by simp)
      refine .quiet ?_ hreport (ih fun e he => hlookup e (List.mem_cons_of_mem _ he))
      rintro file k rfl
      simp [Event.ends?] at hend
  case life =>
    intro life others hlife hholders _
    have hafter : life.after k es = life := Life.after_lookups hlookup fun hsource => by
      have := hheld hsource
      exact Life.holders_pos.mp (by omega)
    rw [hafter]
    exact ⟨hlife, hholders⟩

theorem Recording.acting (h : Consulting source w w') (host : Host) {a : Nat}
    (hheld : source = some k → 0 < a) : Acting host k a a w w' := by
  obtain ⟨es, hconduct, hes⟩ := h.conduct (fun _ => id) host hheld
  exact ⟨es, hconduct, fun e he => by simp [Event.isEnd, (hes e he).2.1]⟩

theorem emit_within {e : Event} (h : p e) : (emit e).Within (Recording p) := by
  intro host w
  exact ⟨[e], rfl, rfl, by simpa using h⟩

theorem log_recording {level : LogLevel} {text : String}
    (h : ∀ receiver, p (.message receiver level text)) : (log level text).Within (Recording p) :=
  Action.Within.bind (Action.Within.get.bind fun _ => (emit_within (h _)).bind fun _ => .pure _)
    fun _ => .pure _

theorem log_within {level : LogLevel} {text : String}
    (h : ¬ (Event.message none level text).IsUnloadReport) :
    (log level text).Within (Consulting source) :=
  log_recording fun _ => ⟨rfl, rfl, nofun, h⟩

theorem log_within_of_ne {level : LogLevel} (text : String) (h : level ≠ .warning) :
    (log level text).Within (Consulting source) :=
  log_within fun hreport => h hreport.1

/-- A message that is no warning changes nothing for anyone. -/
theorem log_closing {level : LogLevel} (text : String) (h : level ≠ .warning) (host : Host)
    (k : Serial) (a : Nat) (w : World) :
    Closing host k a a w ((log level text).run host w).2 := by
  have hlog : (log level text).Within
      (Recording fun e => e.IsLookup none ∧ e.isUse = false) :=
    log_recording fun _ => ⟨⟨rfl, rfl, nofun, fun hreport => h hreport.1⟩, rfl⟩
  obtain ⟨es, hconduct, hes⟩ := (hlog host w).conduct (fun _ he => he.1) host nofun
  exact ⟨es, hconduct, fun e he => (hes e he).2⟩

theorem emit_call_queries (k : LibraryId) (call : NativeCall) :
    (emit (.called k call)).Within (Querying source) :=
  emit_within trivial

theorem emit_call_within (k : LibraryId) (call : NativeCall) :
    (emit (.called k call)).Within (Consulting source) :=
  (emit_call_queries k call).consulting

namespace Native

theorem countPlatforms_within (e : Entry .platformIds) :
    (countPlatforms e).Within (Consulting source) :=
  (emit_call_within _ _).bind fun _ => (Action.Within.theLibrary _).bind fun _ => .pure _

theorem fetchPlatforms_within (e : Entry .platformIds) (n : Nat) :
    (fetchPlatforms e n).Within (Consulting source) :=
  (emit_call_within _ _).bind fun _ => (Action.Within.theLibrary _).bind fun _ => .pure _

theorem infoSize_queries (e : Entry .platformInfo) (p : PlatformId)
    (parameter : PlatformParameter) : (infoSize e p parameter).Within (Querying source) :=
  (emit_call_queries _ _).bind fun _ => (Action.Within.theLibrary _).bind fun _ => .pure _

theorem infoData_queries (e : Entry .platformInfo) (p : PlatformId) (parameter : PlatformParameter)
    (size : BufferSize) : (infoData e p parameter size).Within (Querying source) :=
  (emit_call_queries _ _).bind fun _ => (Action.Within.theLibrary _).bind fun _ => .pure _

theorem extensionAddress_queries (e : Entry .extensionAddress) (name : String) :
    (extensionAddress e name).Within (Querying source) :=
  (emit_call_queries _ _).bind fun _ => (Action.Within.theLibrary _).bind fun _ => .pure _

theorem platformExtensionAddress_queries (e : Entry .platformExtensionAddress) (p : PlatformId)
    (name : String) : (platformExtensionAddress e p name).Within (Querying source) :=
  (emit_call_queries _ _).bind fun _ => (Action.Within.theLibrary _).bind fun _ => .pure _

theorem alText_within (e : Entry .alText) (code : Int32) :
    (alText e code).Within (Consulting source) :=
  (emit_call_within _ _).bind fun _ => (Action.Within.theLibrary _).bind fun _ => .pure _

theorem alcText_within (e : Entry .alcText) (d : Device) (code : Int32) :
    (alcText e d code).Within (Consulting source) :=
  (emit_call_within _ _).bind fun _ => (Action.Within.theLibrary _).bind fun _ => .pure _

theorem alError_within (e : Entry .alError) : (alError e).Within (Consulting source) :=
  (emit_call_within _ _).bind fun _ _ _ => .of_eq rfl rfl

theorem alcError_within (e : Entry .alcError) (d : Device) :
    (alcError e d).Within (Consulting source) :=
  (emit_call_within _ _).bind fun _ => (Action.Within.theLibrary _).bind fun _ _ _ => .of_eq rfl rfl

theorem report_within {callback : RuntimeMessage → Action World Unit}
    (h : ∀ m, (callback m).Within (Recording p)) (k : LibraryId)
    (messages : List RuntimeMessage) : (report callback k messages).Within (Recording p) :=
  Action.Within.get.bind fun _ => (Action.Within.forM fun m _ => h m).ite (.pure _)

end Native

theorem SharedLibrary.address_queries (l : SharedLibrary) (name : String) :
    (l.address name).Within (Querying (l.opened.map OpenLibrary.serial)) := by
  unfold address
  cases l.opened with
  | none => exact .pure _
  | some opened =>
    cases LibraryName.native? name with
    | error _ => exact .pure _
    | ok symbol =>
      refine (emit_within ?_).bind fun _ => (Action.Within.theLibrary _).bind fun _ => .pure _
      exact rfl

namespace Resolver

theorem askPlatform_queries (r : Resolver) (p : PlatformId) (name : String) :
    (r.askPlatform p name).Within (Querying source) := by
  unfold askPlatform
  cases r.perPlatform with
  | none => exact .pure _
  | some e => exact Native.platformExtensionAddress_queries e p name

theorem ask_queries (r : Resolver) (name : String) : (r.ask name).Within (Querying source) := by
  unfold ask
  cases r.strategy with
  | perPlatform p => exact r.askPlatform_queries p name
  | generic =>
    simp only [askGeneric]
    cases r.generic with
    | none => exact .pure _
    | some e => exact Native.extensionAddress_queries e name

end Resolver

namespace Provider

/-- The library or the provider of the application that a provider draws on, until it is
released. -/
def root : Provider → Option Serial
  | .supplied p => some p.serial
  | .shared l => l.opened.map OpenLibrary.serial
  | .resolver r inner => if r.released then none else root inner

theorem address_queries (provider : Provider) (name : String) :
    (provider.address name).Within (Querying provider.root) := by
  induction provider with
  | supplied p =>
    refine (emit_within ?_).bind fun _ => (Action.Within.theLibrary _).bind fun _ => .pure _
    exact rfl
  | shared l => exact l.address_queries name
  | resolver r inner ih =>
    simp only [address, root]
    cases hreleased : r.released with
    | true =>
      simp only [Resolver.accepts, hreleased]
      exact .pure _
    | false => exact ((r.ask_queries name).bind fun _ => ih.ite (.pure _)).ite (.pure _)

theorem addressFor_queries (provider : Provider) (p : PlatformId) (name : String) :
    (provider.addressFor p name).Within (Querying provider.root) := by
  cases provider with
  | shared l => exact .pure _
  | resolver r inner => exact (r.askPlatform_queries p name).ite (.pure _)
  | supplied s =>
    refine ((emit_within ?_).bind fun _ =>
      (Action.Within.theLibrary _).bind fun _ => .pure _).ite (.pure _)
    exact rfl

variable (provider : Provider)

theorem address_within (name : String) :
    (provider.address name).Within (Consulting provider.root) :=
  (provider.address_queries name).consulting

theorem addressFor_within (p : PlatformId) (name : String) :
    (provider.addressFor p name).Within (Consulting provider.root) :=
  (provider.addressFor_queries p name).consulting

theorem require_within (name : String) :
    (provider.require name).Within (Consulting provider.root) :=
  (Attempt.Within.lift (provider.address_within name)).bind fun _ =>
    (Attempt.Within.throw _).ite (.pure _)

theorem entryOf_queries (f : NativeFunction) :
    (provider.entryOf f).Within (Querying provider.root) :=
  (provider.address_queries f.name).bind fun _ => .pure _

theorem entryOf_within (f : NativeFunction) :
    (provider.entryOf f).Within (Consulting provider.root) :=
  (provider.entryOf_queries f).consulting

theorem requireEntry_queries (f : NativeFunction) :
    (provider.requireEntry f).Within (Querying provider.root) := by
  refine (Attempt.Within.lift (provider.entryOf_queries f)).bind fun entry => ?_
  cases entry with
  | none => exact .throw _
  | some e => exact .pure e

theorem requireEntry_within (f : NativeFunction) :
    (provider.requireEntry f).Within (Consulting provider.root) :=
  (provider.requireEntry_queries f).consulting

end Provider

namespace OpenCL

theorem platformCount_within (entry : Option (Entry .platformIds)) :
    (platformCount entry).Within (Consulting source) := by
  cases entry with
  | none => exact .pure _
  | some e => exact (Native.countPlatforms_within e).bind fun _ => .pure _

theorem platformIds_within (entry : Option (Entry .platformIds)) :
    (platformIds entry).Within (Consulting source) := by
  refine (platformCount_within entry).bind fun count => ?_
  cases entry with
  | none => exact .pure _
  | some e =>
    cases count with
    | zero => exact .pure _
    | succ n => exact (Native.fetchPlatforms_within e _).bind fun _ => .pure _

theorem platformText_queries (entry : Option (Entry .platformInfo)) (p : PlatformId)
    (parameter : PlatformParameter) :
    (platformText entry p parameter).Within (Querying source) := by
  cases entry with
  | none => exact .pure _
  | some e =>
    refine (Native.infoSize_queries e p parameter).bind fun answer => ?_
    exact (Action.Within.pure _).ite ((Action.Within.pure _).ite
      ((Native.infoData_queries e p parameter _).bind fun _ => .pure _))

theorem platformText_within (entry : Option (Entry .platformInfo)) (p : PlatformId)
    (parameter : PlatformParameter) :
    (platformText entry p parameter).Within (Consulting source) :=
  (platformText_queries entry p parameter).consulting

variable (provider : Provider)

theorem supports12_within (p : PlatformId) :
    (supports12 provider p).Within (Consulting provider.root) := by
  refine (Attempt.Within.lift (provider.entryOf_within _)).bind fun entry => ?_
  refine (Attempt.Within.lift (platformText_within entry p .version)).bind fun text => ?_
  cases text with
  | none => exact .pure _
  | some text =>
    cases hversion : Version.parse text versionWord <;> simp only [hversion]
    · exact .throw _
    · exact .pure _

theorem solePlatform_within (generic : Address) :
    (solePlatform provider generic).Within (Consulting provider.root) := by
  refine (provider.require_within _).bind fun found => ?_
  refine (Attempt.Within.lift (platformCount_within _)).bind fun count => ?_
  refine Attempt.Within.ite ?_ ((Attempt.Within.throw _).ite (.pure _))
  refine (Attempt.Within.lift (platformIds_within _)).bind fun ids => ?_
  cases ids with
  | nil => exact .pure _
  | cons p ps => exact (supports12_within provider p).bind fun _ => .pure _

theorem chooseStrategy_within (generic perPlatform : Address) :
    (chooseStrategy provider generic perPlatform).Within (Consulting provider.root) := by
  refine ((Attempt.Within.pure _).ite (solePlatform_within provider generic)).bind
    fun selected => ?_
  cases selected with
  | some p => exact .pure _
  | none => exact (Attempt.Within.throw _).ite (.pure _)

namespace FunctionTable

variable {R : World → World → Prop} [IsPreorder World R] {lookup : String → Action World Address}

theorem resolveAll_within (h : ∀ name, (lookup name).Within R) (functions : List String) :
    (resolveAll lookup functions).Within R := by
  induction functions with
  | nil => exact .pure _
  | cons f fs ih =>
    refine (h f).bind fun found => (Action.Within.pure _).ite (ih.bind fun rest => ?_)
    cases rest with
    | error missing => exact .pure _
    | ok rest => exact .pure _

theorem resolve_within (h : ∀ name, (lookup name).Within R) (name : String)
    (functions : List String) : (resolve name functions lookup).Within R := by
  refine (resolveAll_within h functions).bind fun found => ?_
  cases found with
  | error missing => exact .pure _
  | ok functions => exact .pure _

end FunctionTable

theorem head?_unloadText (path : String) (fault : CloseFault) :
    (SharedLibrary.unloadText path fault).toList.head? = some 'F' := by
  change ("Failed to unload " ++ path ++ ": " ++ fault.message).toList.head? = some 'F'
  simp only [String.toList_append, List.append_assoc]
  simp

/-- What is said of an incomplete extension is no report of a library that was not closed. -/
theorem CapabilitySet.gate_within {α : Type} (s : CapabilitySet) (extension : String)
    (found : Except String α) : (s.gate extension found).Within (Consulting source) := by
  unfold gate
  cases found <;> refine Action.Within.ite ?_ (.pure _)
  case ok a => exact .pure _
  case error missing =>
    refine Action.Within.bind (log_within ?_) fun _ => .pure _
    rintro ⟨-, path, fault, htext⟩
    have hfirst := congrArg (fun text => text.toList.head?) htext
    change ("[CL] " ++ extension ++ " was reported as available but an entry point is " ++
      ("missing (" ++ missing ++ ").")).toList.head? = _ at hfirst
    rw [head?_unloadText] at hfirst
    simp only [String.toList_append, List.append_assoc] at hfirst
    simp at hfirst

namespace Capabilities

theorem libraryTables_within (features : List Feature) :
    (libraryTables provider features).Within (Consulting provider.root) := by
  induction features with
  | nil => exact .pure _
  | cons feature features ih =>
    refine (Attempt.Within.lift
      (FunctionTable.resolve_within provider.address_within _ _)).bind fun found => ?_
    cases found with
    | ok table => exact ih.bind fun _ => .pure _
    | error missing => exact (Attempt.Within.throw _).ite ih

theorem ofLibrary_within : (ofLibrary provider).Within (Consulting provider.root) :=
  (libraryTables_within provider _).bind fun _ => .pure _

theorem platformAddress_queries (p : PlatformId) (name : String) :
    (platformAddress provider p name).Within (Querying provider.root) :=
  (provider.addressFor_queries p name).bind fun _ => (provider.address_queries name).ite (.pure _)

theorem platformTables_within (p : PlatformId) (s : CapabilitySet) (features : List Feature) :
    (platformTables provider p s features).Within (Consulting provider.root) := by
  induction features with
  | nil => exact .pure _
  | cons feature features ih =>
    have hresolve := FunctionTable.resolve_within (platformAddress_queries provider p) feature.tag
      feature.functions
    exact hresolve.consulting.bind fun found =>
      (s.gate_within _ found).bind fun _ => ih.bind fun _ => .pure _

theorem ofPlatform_within (p : PlatformId) :
    (ofPlatform provider p).Within (Consulting provider.root) := by
  refine (provider.requireEntry_within _).bind fun e => ?_
  refine (Attempt.Within.lift (platformText_within _ p .version)).bind fun text => ?_
  cases text with
  | none => exact .throw _
  | some text =>
    cases hversion : Version.parse text versionWord <;> simp only [hversion]
    · exact .throw _
    · exact (Attempt.Within.lift (platformText_within _ p .extensions)).bind fun names =>
        (Attempt.Within.lift (platformTables_within provider p _ _)).bind fun _ => .pure _

end Capabilities

end OpenCL

namespace OpenAL.AudioLibrary

variable (a : AudioLibrary)

theorem errorText_within (code : Int32) : (a.errorText code).Within (Consulting source) :=
  (Native.alText_within _ code).bind fun _ => .pure _

theorem deviceErrorText_within (d : Device) (code : Int32) :
    (a.deviceErrorText d code).Within (Consulting source) :=
  (Native.alcText_within _ d code).bind fun _ => .pure _

theorem check_within : a.check.Within (Consulting source) :=
  (Attempt.Within.lift (Native.alError_within _)).bind fun code => (Attempt.Within.pure _).ite
    ((Attempt.Within.lift (a.errorText_within code)).bind fun _ => .throw _)

theorem checkDevice_within (d : Device) : (a.checkDevice d).Within (Consulting source) :=
  (Attempt.Within.lift (Native.alcError_within _ d)).bind fun code => (Attempt.Within.pure _).ite
    ((Attempt.Within.lift (a.deviceErrorText_within d code)).bind fun _ => .throw _)

end OpenAL.AudioLibrary

namespace LibOVR

/-- A message of the runtime is passed on as an error, as information or for debugging. -/
theorem levelOf_ne_warning (level : Int32) : levelOf level ≠ .warning := by
  unfold levelOf
  split
  · simp
  · split <;> simp

theorem forward_within (m : RuntimeMessage) : (forward m).Within (Consulting source) := by
  unfold forward
  cases m.text with
  | none => exact .pure _
  | some text => exact log_within_of_ne _ (levelOf_ne_warning _)

namespace HeadsetRuntime

variable (r : HeadsetRuntime)

theorem versionText_within : r.versionText.Within (Consulting source) :=
  Action.Within.bind
    ((emit_call_within _ _).bind fun _ => (Action.Within.theLibrary _).bind fun _ =>
      (Native.report_within forward_within _ _).bind fun _ =>
        (Action.Within.theLibrary _).bind fun _ => .pure _)
    fun _ => .pure _

theorem ovrStart_within (parameters : StartParameters) :
    (Native.ovrStart forward r.startEntry parameters).Within (Consulting source) := by
  refine (emit_call_within _ _).bind fun _ => ?_
  refine Action.Within.bind (fun _ _ => .of_eq rfl rfl) fun _ => ?_
  refine (Action.Within.theLibrary _).bind fun _ => ?_
  refine (Native.report_within forward_within _ _).bind fun _ => ?_
  exact fun _ _ => .of_eq rfl rfl

theorem start_within (flags : StartFlags) : (r.start flags).Within (Consulting source) := by
  refine (Attempt.Within.throw _).ite ?_
  refine (Attempt.Within.lift (r.ovrStart_within _)).bind fun result => ?_
  refine (Attempt.Within.throw _).ite ?_
  exact (Attempt.Within.lift (log_within_of_ne _ (by decide))).bind fun _ => .pure _

theorem shutdown_within : r.shutdown.Within (Consulting source) := by
  refine Action.Within.ite ?_ (.pure _)
  refine Action.Within.bind ?_ fun _ => (log_within_of_ne _ (by decide)).bind fun _ => .pure _
  exact (emit_call_within _ _).bind fun _ => (Action.Within.theLibrary _).bind fun _ =>
    Native.report_within forward_within _ _

end HeadsetRuntime

end LibOVR

end NativeBinding
