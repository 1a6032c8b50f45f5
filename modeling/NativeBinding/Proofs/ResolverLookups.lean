import NativeBinding.Proofs.Loading
import NativeBinding.Proofs.Selection
import NativeBinding.Proofs.Soundness

/-!
Lookups through a resolver. It has the lookup that its strategy prescribes, and asks the library
only where that lookup answers null; for one platform it asks the lookup of that platform and
nothing else. A released resolver asks nobody, and nobody is asked for a name that holds a NUL.
-/
namespace NativeBinding

/-- A library takes a name with a NUL at its end for the name without it. -/
theorem SharedLibrary.address_append_nul (l : SharedLibrary) {name : String}
    (h : '\x00' ∉ name.toList) : l.address (name ++ "\x00") = l.address name := by
  have hname : LibraryName.native? name = .ok name :=
    LibraryName.native?_eq_ok_iff.mpr ⟨h, .inl rfl⟩
  have hlonger : LibraryName.native? (name ++ "\x00") = .ok name :=
    LibraryName.native?_eq_ok_iff.mpr ⟨h, .inr rfl⟩
  unfold address
  rw [hname, hlonger]

namespace Resolver

variable {r : Resolver} {own : String → Action World Address} {name : String}

/-- The lookup that the strategy prescribes is there, and it is this one. -/
inductive Prescribes (r : Resolver) : (String → Action World Address) → Prop
  | generic {e : Entry .extensionAddress} :
    r.strategy = .generic → r.generic = some e → Prescribes r (Native.extensionAddress e)
  | perPlatform {p : PlatformId} {e : Entry .platformExtensionAddress} :
    r.strategy = .perPlatform p → r.perPlatform = some e →
    Prescribes r (Native.platformExtensionAddress e p)

theorem Prescribes.ask_eq (h : r.Prescribes own) (name : String) : r.ask name = own name := by
  cases h with
  | generic hstrategy hentry => simp [ask, askGeneric, hstrategy, hentry]
  | perPlatform hstrategy hentry => simp [ask, askPlatform, hstrategy, hentry]

theorem accepts_iff : r.accepts name = true ↔ r.released = false ∧ '\x00' ∉ name.toList := by
  rw [← LibraryName.holdsNul_iff]
  simp [accepts]

theorem accepts_of_nul (h : '\x00' ∈ name.toList) : r.accepts name = false := by
  cases haccepts : r.accepts name with
  | false => rfl
  | true => exact ((accepts_iff.mp haccepts).2 h).elim

end Resolver

namespace Provider

variable {r : Resolver} {library p : Provider} {name : String} {host : Host} {w : World}

/-- What a provider is after one or more releases, each of them in a world of its own. -/
inductive ReleasedTo (provider : Provider) : Provider → Prop
  | once (host : Host) (w : World) : ReleasedTo provider (provider.release.run host w).1
  | again {p : Provider} (host : Host) (w : World) :
    ReleasedTo provider p → ReleasedTo provider (p.release.run host w).1

theorem isReleased_release_resolver (r : Resolver) (library : Provider) (host : Host) (w : World) :
    ((Provider.resolver r library).release.run host w).1.isReleased = true := by
  rw [release, Action.run_ite]
  split
  · assumption
  · rfl

/-- The first release of a resolver is for good. -/
theorem ReleasedTo.isReleased (h : (Provider.resolver r library).ReleasedTo p) :
    p.isReleased = true := by
  induction h with
  | once host w => exact isReleased_release_resolver r library host w
  | again host w _ ih =>
    rw [(silent ih host).release w]
    exact ih

theorem address_of_accepts {own : String → Action World Address} (hown : r.Prescribes own)
    (h : r.accepts name = true) (host : Host) (w : World) :
    ((Provider.resolver r library).address name).run host w =
      if ((own name).run host w).1.isNull then
        (library.address name).run host ((own name).run host w).2
      else (own name).run host w := by
  rw [address, if_pos h, Action.run_bind, hown.ask_eq, Action.run_ite]
  rfl

theorem address_eq_null_iff {own : String → Action World Address} (hown : r.Prescribes own)
    (h : r.accepts name = true) (host : Host) (w : World) :
    (((Provider.resolver r library).address name).run host w).1 = .null ↔
      ((own name).run host w).1 = .null ∧ ((library.address name).run host w).1 = .null := by
  rw [address_of_accepts hown h]
  by_cases hnull : ((own name).run host w).1 = .null
  · -- what the library answers does not depend on the lookup that was asked before it
    rw [if_pos (Address.isNull_iff.mpr hnull), address_answer, address_answer]
    exact (and_iff_right hnull).symm
  · have hfound : ¬ ((own name).run host w).1.isNull = true := mt Address.isNull_iff.mp hnull
    rw [if_neg hfound]
    exact iff_of_false hnull fun hboth => hnull hboth.1

theorem addressFor_of_accepts (h : r.accepts name = true) (q : PlatformId) :
    (Provider.resolver r library).addressFor q name = r.askPlatform q name := by
  rw [addressFor, if_pos h]

theorem address_of_not_accepts (h : r.accepts name = false) (host : Host) (w : World) :
    ((Provider.resolver r library).address name).run host w = (.null, w) := by
  simp [address, h]

theorem addressFor_of_not_accepts (h : r.accepts name = false) (q : PlatformId) (host : Host)
    (w : World) : ((Provider.resolver r library).addressFor q name).run host w = (.null, w) := by
  simp [addressFor, h]

end Provider

namespace OpenCL

variable {host : Host} {library : Provider} {r : Resolver} {w : World}

/-- The lookup that needs no platform is chosen only where the library has it. -/
theorem lacks_of_chosen_generic (h : chosenStrategy host library = .ok .generic) :
    library.lacks host .extensionAddress = false := by
  have hleft : withoutPlatform host library = .ok .generic →
      library.lacks host .extensionAddress = false := by
    intro hgeneric
    cases hlacks : library.lacks host .extensionAddress with
    | false => rfl
    | true => simp [withoutPlatform, hlacks] at hgeneric
  by_cases hsole : ∃ q, IsSole host library q
  · obtain ⟨q, hq⟩ := hsole
    rw [chosenStrategy_of_isSole host library hq] at h
    rcases hj : judgement host library q with failure | _ | _ <;> rw [hj] at h
    · cases h
    · exact hleft h
    · cases h
  · have hnone := not_exists.mp hsole
    rcases chosenStrategy_cases_of_not_isSole host library hnone with hc | hc | ⟨n, hc⟩ <;>
      rw [hc] at h
    · exact hleft h
    · cases h
    · cases h

/-- No resolver is made with a strategy whose lookup is missing. -/
theorem resolverFor_prescribes (h : ((resolverFor library).run host w).1 = .ok r) :
    ∃ own, r.Prescribes own := by
  obtain ⟨strategy, hchosen, rfl⟩ := resolverFor_ok_iff.mp h
  cases strategy with
  | generic =>
    obtain ⟨e, he⟩ := (Provider.lacks_eq_false_iff host).mp (lacks_of_chosen_generic hchosen)
    exact ⟨_, .generic rfl he⟩
  | perPlatform p =>
    obtain ⟨⟨hlookup, -⟩, -⟩ := (isSelected_iff host library p).mpr hchosen
    obtain ⟨e, he⟩ := (Provider.lacks_eq_false_iff host).mp hlookup
    exact ⟨_, .perPlatform rfl he⟩

/-- How a resolver around a library answers, now and after it was released. It was made on `host`,
and `own` is the lookup that its strategy prescribes. Which lookups are asked depends on nothing
that happened before, and not on the host that they are asked on. -/
structure AnswersLookups (host : Host) (library : Provider) (r : Resolver)
    (own : String → Action World Address) : Prop where
  /-- Its lookups are those that the library had when the resolver was made. -/
  entries : r.generic = library.entryAnswer host .extensionAddress ∧
    r.perPlatform = library.entryAnswer host .platformExtensionAddress
  prescribed : r.Prescribes own
  /-- An address that the prescribed lookup finds is the answer, and nothing else is asked. -/
  address_own : ∀ name host' w, '\x00' ∉ name.toList → ((own name).run host' w).1 ≠ .null →
    ((Provider.resolver r library).address name).run host' w = (own name).run host' w
  /-- Where it finds none, the library is asked after it, and its answer is the answer. -/
  address_library : ∀ name host' w, '\x00' ∉ name.toList → ((own name).run host' w).1 = .null →
    ((Provider.resolver r library).address name).run host' w =
      (library.address name).run host' ((own name).run host' w).2
  address_null_iff : ∀ name host' w, '\x00' ∉ name.toList →
    ((((Provider.resolver r library).address name).run host' w).1 = .null ↔
      ((own name).run host' w).1 = .null ∧ ((library.address name).run host' w).1 = .null)
  /-- For one platform the lookup of this platform is asked, whatever the strategy is. -/
  addressFor_some : ∀ e q name, r.perPlatform = some e → '\x00' ∉ name.toList →
    (Provider.resolver r library).addressFor q name = Native.platformExtensionAddress e q name
  addressFor_none : ∀ q name host' w, r.perPlatform = none →
    ((Provider.resolver r library).addressFor q name).run host' w = (.null, w)
  /-- For a name that holds a NUL nothing is asked. -/
  nul : ∀ name host' w, '\x00' ∈ name.toList →
    ((Provider.resolver r library).address name).run host' w = (.null, w) ∧
      ∀ q, ((Provider.resolver r library).addressFor q name).run host' w = (.null, w)
  /-- After a release nothing is asked. -/
  released : ∀ p, (Provider.resolver r library).ReleasedTo p → ∀ name host' w,
    (p.address name).run host' w = (.null, w) ∧
      ∀ q, (p.addressFor q name).run host' w = (.null, w)

/-- Each resolver that is made for a library answers by the lookup of its strategy and then by the
library, and for one platform by the lookup of that platform. It does not accept a NUL at the end of
a name, which a shared library by itself puts up with. -/
theorem resolverFor_answersLookups (h : ((resolverFor library).run host w).1 = .ok r) :
    (∃ own, AnswersLookups host library r own) ∧ ∀ (l : SharedLibrary) (name : String),
      '\x00' ∉ name.toList → l.address (name ++ "\x00") = l.address name := by
  obtain ⟨own, hown⟩ := resolverFor_prescribes h
  obtain ⟨strategy, -, hmade⟩ := resolverFor_ok_iff.mp h
  have hkept := (resolverFor_ok h).2
  have haccepts : ∀ name : String, '\x00' ∉ name.toList → r.accepts name = true :=
    fun name hname => Resolver.accepts_iff.mpr ⟨hkept, hname⟩
  refine ⟨⟨own, ?_⟩, fun l name hname => l.address_append_nul hname⟩
  constructor
  case entries => exact ⟨by rw [hmade], by rw [hmade]⟩
  case prescribed => exact hown
  case address_own =>
    intro name host w hname hfound
    rw [Provider.address_of_accepts hown (haccepts name hname), if_neg]
    rwa [Address.isNull_iff]
  case address_library =>
    intro name host w hname hnull
    rw [Provider.address_of_accepts hown (haccepts name hname), if_pos]
    rwa [Address.isNull_iff]
  case address_null_iff =>
    intro name host w hname
    exact Provider.address_eq_null_iff hown (haccepts name hname) host w
  case addressFor_some =>
    intro e q name hentry hname
    rw [Provider.addressFor_of_accepts (haccepts name hname), Resolver.askPlatform, hentry]
  case addressFor_none =>
    intro q name host w hentry
    cases hname : r.accepts name with
    | true =>
      rw [Provider.addressFor_of_accepts hname, Resolver.askPlatform, hentry]
      rfl
    | false => exact Provider.addressFor_of_not_accepts hname q host w
  case nul =>
    intro name host w hname
    have hrefused := Resolver.accepts_of_nul (r := r) hname
    exact ⟨Provider.address_of_not_accepts hrefused host w,
      fun q => Provider.addressFor_of_not_accepts hrefused q host w⟩
  case released =>
    intro p hp name host w
    exact ⟨Provider.address_released hp.isReleased name host w,
      fun q => Provider.addressFor_released hp.isReleased q name host w⟩

/-- A driver with one platform of version 1.2. -/
theorem resolverFor_answersLookups_single :
    let host := hostOfPlatforms { ids := [⟨7⟩] }
    let w := World.initial host none
    let library := Provider.supplied { number := 0, library := 0, isFull := true }
    ∃ r, ((resolverFor library).run host w).1 = .ok r ∧ r.strategy = .perPlatform ⟨7⟩ ∧
      (∃ own, AnswersLookups host library r own) ∧ ∀ (l : SharedLibrary) (name : String),
        '\x00' ∉ name.toList → l.address (name ++ "\x00") = l.address name := by
  intro host w library
  have hselected : IsSelected host library ⟨7⟩ :=
    isSelected_hostOfPlatforms rfl rfl ⟨rfl, by decide⟩
  obtain ⟨r, hr, hstrategy⟩ := resolverFor_of_isSelected hselected w
  exact ⟨r, hr, hstrategy, resolverFor_answersLookups hr⟩

end OpenCL

end NativeBinding
