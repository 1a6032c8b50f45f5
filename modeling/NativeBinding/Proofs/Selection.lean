import NativeBinding.Proofs.Tables
import NativeBinding.Proofs.Tags

/-!
The platform that a strategy is bound to: what it takes for a platform to be selected, that its
capabilities say the same, and where its id comes from.
-/
namespace NativeBinding.OpenCL

open Capabilities

variable {host : Host} {provider : Provider} {p : PlatformId} {r : Resolver} {w : World}

theorem resolverFor_ok_iff :
    ((resolverFor provider).run host w).1 = .ok r ↔
      ∃ strategy, chosenStrategy host provider = .ok strategy ∧
        r = {
          generic := provider.entryAnswer host .extensionAddress
          perPlatform := provider.entryAnswer host .platformExtensionAddress
          strategy } := by
  rw [resolverFor_answer]
  cases chosenStrategy host provider <;> simp [Except.map, eq_comm]

/-- The strategy is bound to the platform that is selected. -/
theorem strategy_eq_perPlatform_iff (h : ((resolverFor provider).run host w).1 = .ok r) :
    r.strategy = .perPlatform p ↔ IsSelected host provider p := by
  obtain ⟨strategy, hchosen, rfl⟩ := resolverFor_ok_iff.mp h
  rw [isSelected_iff, hchosen, Except.ok.injEq]

/-- A provider whose single platform is selected gets a resolver that is bound to it. -/
theorem resolverFor_of_isSelected (h : IsSelected host provider p) (w : World) :
    ∃ r, ((resolverFor provider).run host w).1 = .ok r ∧ r.strategy = .perPlatform p :=
  ⟨_, resolverFor_ok_iff.mpr ⟨_, (isSelected_iff host provider p).mp h, rfl⟩, rfl⟩

/-- No more platforms are reported than were counted. -/
theorem length_reportedIds_le (host : Host) (e : Entry .platformIds) :
    (reportedIds host e).length ≤ reportedCount host e := by
  simp only [reportedIds]
  split
  · simp
  · split
    · rw [List.length_map, List.length_range]
      exact Nat.min_le_right _ _
    · simp

theorem reportedIds_eq_singleton {e : Entry .platformIds} (hcount : reportedCount host e = 1)
    (hfirst : firstId? host e = some p) : reportedIds host e = [p] := by
  have hlength := length_reportedIds_le host e
  rw [← head?_reportedIds host hcount] at hfirst
  obtain ⟨ids, hids⟩ := List.head?_eq_some_iff.mp hfirst
  rw [hids, hcount, List.length_cons] at hlength
  have hnone : ids = [] := List.eq_nil_of_length_eq_zero (by omega)
  rw [hids, hnone]

/-- A provider that answers the same about platforms reports the same of them. -/
theorem reports_congr {provider' : Provider}
    (h : provider'.answer host NativeFunction.platformInfo.name =
      provider.answer host NativeFunction.platformInfo.name) (p : PlatformId) :
    versionText? host provider' p = versionText? host provider p ∧
      extensionText host provider' p = extensionText host provider p := by
  have hentry : provider'.entryAnswer host .platformInfo =
      provider.entryAnswer host .platformInfo := congrArg (Address.entryOf .platformInfo) h
  simp only [versionText?, extensionText, hentry, and_self]

/-- The set of a platform of version 1.2 or later holds the tags of the versions up to 1.2. -/
theorem contains_coreTag_of_atLeast {v : Version} (h : v.atLeast 1 2 = true) (text : String) :
    ∀ tag ∈ ["OpenCL10", "OpenCL11", "OpenCL12"],
      (CapabilitySet.build v text).contains tag = true := by
  have hcovers : Covers v.major v.minor 1 2 := (Version.atLeast_iff v 1 2).mp h
  have hcovered : ∀ m, (1, m) ∈ CapabilitySet.versionsOf CapabilitySet.coreMinors → m ≤ 2 →
      (CapabilitySet.build v text).contains (CapabilitySet.versionTag "" 1 m) = true := by
    intro m hknown hm
    refine (CapabilitySet.contains_build_coreTag_iff v text hknown).mpr (.inr ?_)
    rcases hcovers with hmajor | ⟨hmajor, hminor⟩
    · exact .inl hmajor
    · exact .inr ⟨hmajor, Nat.le_trans hm hminor⟩
  simp only [List.forall_mem_cons]
  exact ⟨hcovered 0 (by decide) (by omega), hcovered 1 (by decide) (by omega),
    hcovered 2 (by decide) (by omega), by simp⟩

/-- Only the version brings the tag of version 1.2 into the set, if no extension is called so. -/
theorem contains_core12_iff {v : Version} {text : String}
    (h : "OpenCL12".toList ∉ Text.words text.toList) :
    (CapabilitySet.build v text).contains "OpenCL12" = true ↔ v.atLeast 1 2 = true := by
  have hknown : (1, 2) ∈ CapabilitySet.versionsOf CapabilitySet.coreMinors := by decide
  have htag : CapabilitySet.versionTag "" 1 2 = "OpenCL12" := rfl
  rw [← htag, CapabilitySet.contains_build_coreTag_iff v text hknown, htag, or_iff_right h]
  exact (Version.atLeast_iff v 1 2).symm

/-- What the choice of a strategy and the capabilities of the only platform say of each other. -/
structure Agrees (host : Host) (library : Provider) (r : Resolver) (p : PlatformId) (w : World) :
    Prop where
  /-- The strategy is bound to the platform if and only if the platform has the tag of version
  1.2, unless an extension is called so. -/
  tag : "OpenCL12".toList ∉ Text.words (extensionText host library p).toList →
    (r.strategy = .perPlatform p ↔
      ∃ c, ((ofPlatform (.resolver r library) p).run host w).1 = .ok c ∧
        c.contains "OpenCL12" = true)
  /-- The platform that the strategy is bound to has capabilities, with all tags up to that. -/
  capabilities : r.strategy = .perPlatform p →
    ∃ c, ((ofPlatform (.resolver r library) p).run host w).1 = .ok c ∧
      ∀ tag ∈ ["OpenCL10", "OpenCL11", "OpenCL12"], c.contains tag = true
  /-- It is the only one that the resolver reports. -/
  platforms : r.strategy = .perPlatform p →
    (((Provider.resolver r library).entryOf .platformIds >>= platformIds).run host w).1 = [p]

/-- The resolver's own test for version 1.2 and the set of the only platform agree, if the resolver
finds the functions about platforms where the library has them. -/
theorem selection_agrees {library : Provider} {w' : World}
    (h : ((resolverFor library).run host w).1 = .ok r) (hsole : IsSole host library p)
    (hsame : ∀ f ∈ [NativeFunction.platformInfo, .platformIds],
      (Provider.resolver r library).answer host f.name = library.answer host f.name) :
    Agrees host library r p w' := by
  have hstrategy := strategy_eq_perPlatform_iff (p := p) h
  obtain ⟨hversion, hnames⟩ := reports_congr (hsame .platformInfo (by simp)) p
  constructor
  case tag =>
    intro hnone
    rw [hstrategy, IsSelected, and_iff_right hsole]
    constructor
    · rintro ⟨text, v, htext, hv, hlater⟩
      refine ⟨_, (ofPlatform_ok_iff host _ p).mpr ⟨text, v, hversion.trans htext, hv, rfl⟩, ?_⟩
      rw [Capabilities.contains, ofVersion, hnames]
      exact (contains_core12_iff hnone).mpr hlater
    · rintro ⟨c, hc, htag⟩
      obtain ⟨text, v, htext, hv, rfl⟩ := (ofPlatform_ok_iff host _ p).mp hc
      rw [Capabilities.contains, ofVersion, hnames] at htag
      exact ⟨text, v, hversion.symm.trans htext, hv, (contains_core12_iff hnone).mp htag⟩
  case capabilities =>
    intro hbound
    obtain ⟨-, text, v, htext, hv, hlater⟩ := hstrategy.mp hbound
    exact ⟨_, (ofPlatform_ok_iff host _ p).mpr ⟨text, v, hversion.trans htext, hv, rfl⟩,
      contains_coreTag_of_atLeast hlater _⟩
  case platforms =>
    intro _
    obtain ⟨-, e, hids, hcount, hfirst⟩ := hsole
    have hentry : (Provider.resolver r library).entryAnswer host .platformIds = some e :=
      (congrArg (Address.entryOf .platformIds) (hsame .platformIds (by simp))).trans hids
    rw [Action.run_bind, Provider.entryOf_answer, hentry, platformIds_answer]
    exact reportedIds_eq_singleton hcount hfirst

/-- A host with one library that has all functions, and whose driver reports these platforms, each
of version 1.2. -/
def hostOfPlatforms (platforms : PlatformReport) : Host :=
  let library : NativeLibrary := {
    symbol := fun name => (NativeFunction.ofName? name).elim .null fun f => .entry 0 f
    platforms
    info := fun _ parameter => .ofText (if parameter = .version then "OpenCL 1.2" else "") }
  Host.ofLists [library] []

theorem isSelected_hostOfPlatforms {platforms : PlatformReport}
    (hcounted : platforms.countStatus = Status.success) (hone : platforms.count = 1)
    (hstored : platforms.fetchStatus = Status.success ∧ 0 < platforms.returned) :
    IsSelected (hostOfPlatforms platforms)
      (.supplied { number := 0, library := 0, isFull := true }) (platforms.ids.getD 0 .null) := by
  refine ⟨⟨rfl, ⟨0⟩, rfl, ?_, ?_⟩, "OpenCL 1.2", { major := 1, minor := 2 }, rfl, rfl, rfl⟩
  · exact (if_pos hcounted).trans hone
  · exact if_pos hstored

/-- A driver with one platform. -/
theorem selection_agrees_single :
    let host := hostOfPlatforms { ids := [⟨7⟩] }
    let w := World.initial host none
    let library := Provider.supplied { number := 0, library := 0, isFull := true }
    ∃ r, ((resolverFor library).run host w).1 = .ok r ∧ IsSole host library ⟨7⟩ ∧
      (∀ f ∈ [NativeFunction.platformInfo, .platformIds],
        (Provider.resolver r library).answer host f.name = library.answer host f.name) ∧
      Agrees host library r ⟨7⟩ w := by
  intro host w library
  let r : Resolver := { generic := some ⟨0⟩, perPlatform := some ⟨0⟩, strategy := .perPlatform ⟨7⟩ }
  have hselected : IsSelected host library ⟨7⟩ :=
    isSelected_hostOfPlatforms rfl rfl ⟨rfl, by decide⟩
  have hr : ((resolverFor library).run host w).1 = .ok r :=
    resolverFor_ok_iff.mpr ⟨_, (isSelected_iff host library ⟨7⟩).mp hselected, rfl⟩
  have hsame : ∀ f ∈ [NativeFunction.platformInfo, .platformIds],
      (Provider.resolver r library).answer host f.name = library.answer host f.name := by
    simp only [List.forall_mem_cons]
    exact ⟨rfl, rfl, by simp⟩
  exact ⟨r, hr, hselected.1, hsame, selection_agrees hr hselected.1 hsame⟩

/-- The buffer for the only platform is null until the driver writes into it, so the strategy is
bound to a platform if and only if the driver wrote this platform into the first entry. -/
theorem perPlatform_id_written (h : ((resolverFor provider).run host w).1 = .ok r)
    (hbound : r.strategy = .perPlatform p) :
    ∃ e, provider.entryAnswer host .platformIds = some e ∧ ∀ q, q ≠ .null →
      (p = q ↔ (host.library e.library).platforms.ids.head? = some q) := by
  obtain ⟨⟨-, e, hids, -, hfirst⟩, -⟩ := (strategy_eq_perPlatform_iff h).mp hbound
  refine ⟨e, hids, fun q hq => ?_⟩
  obtain ⟨-, hp⟩ := Option.ite_none_right_eq_some.mp hfirst
  rw [← Option.some.inj hp]
  cases (host.library e.library).platforms.ids with
  | nil => simp [Ne.symm hq]
  | cons first ids => simp

/-- A driver that stores the one platform that it counts. -/
theorem perPlatform_id_written_single :
    let host := hostOfPlatforms { ids := [⟨7⟩] }
    let w := World.initial host none
    let provider := Provider.supplied { number := 0, library := 0, isFull := true }
    ∃ r, ((resolverFor provider).run host w).1 = .ok r ∧ r.strategy = .perPlatform ⟨7⟩ ∧
      ∃ e, provider.entryAnswer host .platformIds = some e ∧ ∀ q, q ≠ .null →
        (⟨7⟩ = q ↔ (host.library e.library).platforms.ids.head? = some q) := by
  intro host w provider
  have hselected : IsSelected host provider ⟨7⟩ :=
    isSelected_hostOfPlatforms rfl rfl ⟨rfl, by decide⟩
  obtain ⟨r, hr, hbound⟩ := resolverFor_of_isSelected hselected w
  exact ⟨r, hr, hbound, perPlatform_id_written hr hbound⟩

/-- A driver that counts one platform, and stores none when it is asked for it. -/
theorem perPlatform_null_of_unwritten :
    let host := hostOfPlatforms { ids := [], count := 1, returned := 1 }
    let w := World.initial host none
    let provider := Provider.supplied { number := 0, library := 0, isFull := true }
    ¬ ∀ r p, ((resolverFor provider).run host w).1 = .ok r → r.strategy = .perPlatform p →
      p ≠ .null := by
  intro host w provider hnever
  have hselected : IsSelected host provider .null :=
    isSelected_hostOfPlatforms rfl rfl ⟨rfl, by decide⟩
  obtain ⟨r, hr, hbound⟩ := resolverFor_of_isSelected hselected w
  exact hnever r .null hr hbound rfl

end NativeBinding.OpenCL
