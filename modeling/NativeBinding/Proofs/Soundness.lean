import NativeBinding.Proofs.Ownership
import NativeBinding.Proofs.Resolution

/-!
Released providers. They answer nothing and ask nothing, so that nothing can be built around one:
whatever is built draws on something that was not released.
-/
namespace NativeBinding

variable {host : Host} {w : World}

namespace Provider

/-- True once the provider was released. The application's own never stops answering. -/
def isReleased : Provider → Bool
  | .supplied _ => false
  | .shared l => !l.isLoaded
  | .resolver r _ => r.released

/-- What draws on nothing was released. -/
def Sound (provider : Provider) : Prop := provider.root = none → provider.isReleased = true

variable {provider : Provider}

theorem sound_supplied (p : SuppliedProvider) : (Provider.supplied p).Sound := nofun

theorem sound_shared (l : SharedLibrary) : (Provider.shared l).Sound := by
  intro h
  cases hopened : l.opened <;> simp_all [root, isReleased, SharedLibrary.isLoaded]

theorem sound_resolver {inner : Provider} (r : Resolver) (h : inner.root.isSome) :
    (Provider.resolver r inner).Sound := by
  intro hroot
  cases hreleased : r.released with
  | true => exact hreleased
  | false =>
    simp only [root, hreleased, Bool.false_eq_true, if_false] at hroot
    simp [hroot] at h

/-- The application's own provider stays what it is. -/
theorem release_supplied (p : SuppliedProvider) (host : Host) (w : World) :
    ((Provider.supplied p).release.run host w).1 = .supplied p := by
  cases hfull : p.isFull <;> simp [release, hfull]

theorem supplied_of_release {p : SuppliedProvider}
    (h : (provider.release.run host w).1 = .supplied p) : provider = .supplied p := by
  cases provider with
  | supplied p' =>
    rw [release_supplied] at h
    exact h
  | shared l => cases h
  | resolver r inner =>
    rw [release, Action.run_ite] at h
    split at h <;> cases h

/-- A provider that was released holds nothing, unless it is the application's own. -/
theorem release_holds {k : Serial} (hbare : ∀ p, provider = .supplied p → p.serial ≠ k)
    (host : Host) (w : World) : (provider.release.run host w).1.holds k = 0 := by
  cases provider with
  | supplied p =>
    rw [release_supplied]
    simp [holds, root, hbare p rfl]
  | shared l =>
    rw [holds, root_release (.shared l) host w (by simp)]
    rfl
  | resolver r inner =>
    rw [holds, root_release (.resolver r inner) host w (by simp)]
    rfl

theorem sound_release (h : provider.Sound) (host : Host) (w : World) :
    (provider.release.run host w).1.Sound := by
  cases provider with
  | supplied p =>
    rw [release_supplied]
    exact sound_supplied p
  | shared l => exact sound_shared _
  | resolver r inner =>
    rw [release, Action.run_ite]
    split
    · exact h
    · exact fun _ => rfl

/-- A released provider answers null without asking anything. -/
theorem address_released (h : provider.isReleased = true) (name : String) (host : Host)
    (w : World) :
    (provider.address name).run host w = (.null, w) := by
  cases provider with
  | supplied p => simp [isReleased] at h
  | shared l =>
    cases hopened : l.opened with
    | none => simp [address, SharedLibrary.address, hopened]
    | some opened => simp [isReleased, SharedLibrary.isLoaded, hopened] at h
  | resolver r inner =>
    have hreleased : r.released = true := h
    simp [address, Resolver.accepts, hreleased]

theorem addressFor_released (h : provider.isReleased = true) (p : PlatformId) (name : String)
    (host : Host) (w : World) :
    (provider.addressFor p name).run host w = (.null, w) := by
  cases provider with
  | supplied s => simp [isReleased] at h
  | shared l => rfl
  | resolver r inner =>
    have hreleased : r.released = true := h
    simp [addressFor, Resolver.accepts, hreleased]

theorem answer_released (h : provider.isReleased = true) (name : String) (host : Host) :
    provider.answer host name = .null := by
  have hrun := address_released h name host (.initial host none)
  rw [← provider.address_answer host (.initial host none), hrun]

theorem entryAnswer_released (h : provider.isReleased = true) (f : NativeFunction)
    (host : Host) :
    provider.entryAnswer host f = none := by
  rw [entryAnswer, answer_released h]
  rfl

/-- What a provider answers, it answers out of what it draws on. -/
theorem Sound.root_isSome (h : provider.Sound) (hanswers : provider.isReleased = false) :
    provider.root.isSome := by
  cases hroot : provider.root with
  | none => simp [h hroot] at hanswers
  | some k => rfl

theorem requireEntry_ok {f : NativeFunction} {e : Entry f}
    (h : ((provider.requireEntry f).run host w).1 = .ok e) : provider.isReleased = false := by
  cases hreleased : provider.isReleased with
  | false => rfl
  | true =>
    rw [requireEntry_answer, entryAnswer_released hreleased] at h
    simp at h

end Provider

/-- An attempt that is released on failure succeeds as it would by itself. -/
theorem OpenCL.resolverFor_ok {provider : Provider} {r : Resolver}
    (h : ((resolverFor provider).run host w).1 = .ok r) :
    provider.isReleased = false ∧ r.released = false := by
  rw [resolverFor_answer] at h
  cases hreleased : provider.isReleased with
  | false =>
    refine ⟨rfl, ?_⟩
    cases hchosen : chosenStrategy host provider with
    | error failure => simp [hchosen, Except.map] at h
    | ok strategy =>
      simp only [hchosen, Except.map, Except.ok.injEq] at h
      rw [← h]
  | true =>
    have hlacks : ∀ f, provider.lacks host f = true := fun f =>
      (Provider.entryAnswer_eq_none_iff host).mp (Provider.entryAnswer_released hreleased f host)
    simp [chosenStrategy, withoutPlatform, hlacks, Except.map] at h

/-- Without an address there is no table of the functions of version 1.0. -/
theorem OpenCL.Capabilities.resolve_released {provider : Provider}
    (h : provider.isReleased = true) (feature : Feature) (hsome : feature.functions ≠ [])
    (host : Host) (w : World) :
    ∃ missing, (feature.resolve provider.address).run host w = (.error missing, w) := by
  obtain ⟨f, fs, hfunctions⟩ := List.exists_cons_of_ne_nil hsome
  have hnull := Provider.address_released h f host w
  refine ⟨f, ?_⟩
  simp [Feature.resolve, FunctionTable.resolve, FunctionTable.resolveAll, hfunctions, hnull,
    Address.isNull]

theorem OpenCL.Capabilities.ofLibrary_ok {provider : Provider} {c : Capabilities}
    (h : ((ofLibrary provider).run host w).1 = .ok c) : provider.isReleased = false := by
  cases hreleased : provider.isReleased with
  | false => rfl
  | true =>
    obtain ⟨missing, hresolve⟩ :=
      resolve_released hreleased .core10 (by simp [Feature.functions]) host w
    rw [ofLibrary, Attempt.run_bind_fst, Feature.all, libraryTables, Attempt.run_bind_fst,
      Attempt.run_liftM, hresolve] at h
    simp at h

/-- A provider that answers nothing and asks nothing, and is not released again. -/
structure Provider.Silent (host : Host) (provider : Provider) : Prop where
  address : ∀ name w, (provider.address name).run host w = (.null, w)
  addressFor : ∀ p name w, (provider.addressFor p name).run host w = (.null, w)
  entryOf : ∀ f w, (provider.entryOf f).run host w = (none, w)
  libraryCapabilities : ∀ w, ∃ missing,
    (OpenCL.Capabilities.ofLibrary provider).run host w = (.error (.missingCoreFunction missing), w)
  platformCapabilities : ∀ p w, (OpenCL.Capabilities.ofPlatform provider p).run host w =
    (.error (.missingCoreFunction NativeFunction.platformInfo.name), w)
  release : ∀ w, provider.release.run host w = (provider, w)

theorem Provider.silent {provider : Provider} (h : provider.isReleased = true) (host : Host) :
    provider.Silent host := by
  have haddress := fun name w => address_released h name host w
  have hentry : ∀ f w, (provider.entryOf f).run host w = (none, w) := by
    intro f w
    rw [entryOf, Action.run_bind, haddress]
    rfl
  constructor
  case address => exact haddress
  case addressFor => exact fun p name w => addressFor_released h p name host w
  case entryOf => exact hentry
  case libraryCapabilities =>
    intro w
    obtain ⟨missing, hresolve⟩ := OpenCL.Capabilities.resolve_released h .core10
      (by simp [OpenCL.Feature.functions]) host w
    refine ⟨missing, ?_⟩
    simp [OpenCL.Capabilities.ofLibrary, OpenCL.Feature.all, OpenCL.Capabilities.libraryTables,
      Attempt.run_bind, hresolve]
  case platformCapabilities =>
    intro p w
    simp [OpenCL.Capabilities.ofPlatform, requireEntry, Attempt.run_bind, hentry]
  case release =>
    intro w
    cases provider with
    | supplied p => simp [isReleased] at h
    | shared l =>
      have hnone : l.opened = none := by
        simpa [isReleased, SharedLibrary.isLoaded] using h
      simp [Provider.release, SharedLibrary.release, hnone]
    | resolver r inner =>
      have hreleased : r.released = true := h
      simp [Provider.release, hreleased]

theorem OpenAL.AudioLibrary.ofProvider_ok {provider : Provider} {a : AudioLibrary}
    (h : ((ofProvider provider).run host w).1 = .ok a) :
    a.provider = provider ∧ provider.isReleased = false := by
  rw [ofProvider, OpenCL.releasedOnFailure_answer] at h
  constructor
  · refine Attempt.Gives.bind (p := fun a => a.provider = provider) ?_ host w a h
    exact fun _ => .bind fun _ => .bind fun _ => .bind fun _ => .pure rfl
  · rw [Attempt.run_bind_fst] at h
    cases hfirst : ((provider.requireEntry .alError).run host w).1 with
    | error failure => simp [hfirst] at h
    | ok e => exact Provider.requireEntry_ok hfirst

theorem OpenAL.AudioLibrary.load_ok {config : Config} {a : AudioLibrary}
    (h : ((load config).run host w).1 = .ok a) :
    ∃ l, a.provider = .shared l ∧ a.provider.root.isSome := by
  rw [load, Attempt.run_bind] at h
  rcases hload : (SharedLibrary.load config.openALLibrary libraryFallbacks).run host w with
    ⟨failure | l, w'⟩
  · simp [hload] at h
  · rw [hload] at h
    obtain ⟨hprovider, hreleased⟩ := ofProvider_ok h
    rw [hprovider]
    exact ⟨l, rfl, (Provider.sound_shared l).root_isSome hreleased⟩

theorem LibOVR.HeadsetRuntime.ofProvider_ok {provider : Provider} {r : HeadsetRuntime}
    (h : ((ofProvider provider).run host w).1 = .ok r) :
    r.provider = provider ∧ provider.isReleased = false := by
  rw [ofProvider, OpenCL.releasedOnFailure_answer] at h
  constructor
  · refine Attempt.Gives.bind (p := fun r => r.provider = provider) ?_ host w r h
    exact fun _ => .bind fun _ => .bind fun _ => .pure rfl
  · rw [Attempt.run_bind_fst] at h
    cases hfirst : ((provider.requireEntry .ovrStart).run host w).1 with
    | error failure => simp [hfirst] at h
    | ok e => exact Provider.requireEntry_ok hfirst

theorem LibOVR.HeadsetRuntime.load_ok {config : Config} {r : HeadsetRuntime}
    (h : ((load config).run host w).1 = .ok r) :
    ∃ l, r.provider = .shared l ∧ r.provider.root.isSome := by
  rw [load, Attempt.run_bind] at h
  rcases hload : (SharedLibrary.load config.libOVRLibrary []).run host w with ⟨failure | l, w'⟩
  · simp [hload] at h
  · rw [hload] at h
    obtain ⟨hprovider, hreleased⟩ := ofProvider_ok h
    rw [hprovider]
    exact ⟨l, rfl, (Provider.sound_shared l).root_isSome hreleased⟩

/-- A runtime that starts keeps its provider. -/
theorem LibOVR.HeadsetRuntime.start_provider {r started : HeadsetRuntime} {flags : StartFlags}
    (h : ((r.start flags).run host w).1 = .ok started) : started.provider = r.provider := by
  rw [start, Attempt.run_ite] at h
  split at h
  · cases h
  · rw [Attempt.run_bind, Attempt.run_liftM] at h
    dsimp only at h
    rw [Attempt.run_ite] at h
    split at h
    · cases h
    · cases h
      rfl

end NativeBinding
