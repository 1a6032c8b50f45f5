import Mathlib.Data.List.Sort
import NativeBinding.Proofs.Tags

/-! Versions that are added to a set one after the other come to the latest of them. -/
namespace NativeBinding.OpenCL

/-- Of two versions, each a major and a minor number, the first is not later. -/
def NotLater (u v : UInt32 × UInt32) : Prop := u.1 < v.1 ∨ u.1 = v.1 ∧ u.2 ≤ v.2

namespace NotLater

variable {u v w : UInt32 × UInt32}

theorem iff_toNat : NotLater u v ↔
    u.1.toNat < v.1.toNat ∨ u.1.toNat = v.1.toNat ∧ u.2.toNat ≤ v.2.toNat := by
  rw [NotLater, UInt32.lt_iff_toNat_lt, ← UInt32.toNat_inj, UInt32.le_iff_toNat_le]

theorem refl (v : UInt32 × UInt32) : NotLater v v := .inr ⟨rfl, UInt32.le_refl _⟩

theorem trans (huv : NotLater u v) (hvw : NotLater v w) : NotLater u w := by
  rw [iff_toNat] at *
  omega

theorem total (u v : UInt32 × UInt32) : NotLater u v ∨ NotLater v u := by
  rw [iff_toNat, iff_toNat]
  omega

theorem antisymm (huv : NotLater u v) (hvu : NotLater v u) : u = v := by
  rw [iff_toNat] at huv hvu
  exact Prod.ext (UInt32.toNat_inj.mp (by omega)) (UInt32.toNat_inj.mp (by omega))

theorem covers (h : NotLater u v) {tier m : Nat} (hu : Covers u.1 u.2 tier m) :
    Covers v.1 v.2 tier m := by
  rw [iff_toNat] at h
  unfold Covers at *
  omega

/-- A later version has all the tags of an earlier one. -/
theorem versionTags_subset (h : NotLater u v) {suffix : String} {known : List (List Nat)}
    (hknown : ∀ minors ∈ known, minors.Pairwise (· < ·)) :
    CapabilitySet.versionTags suffix known u.1 u.2 ⊆
      CapabilitySet.versionTags suffix known v.1 v.2 := by
  intro x hx
  rw [CapabilitySet.mem_versionTags_iff hknown] at hx ⊢
  obtain ⟨tier, m, hmem, hcovers, hx⟩ := hx
  exact ⟨tier, m, hmem, h.covers hcovers, hx⟩

end NotLater

namespace CapabilitySet

instance : HasSubset CapabilitySet := ⟨fun s t => ∀ x, s.contains x = true → t.contains x = true⟩

/-- The versions are added one after the other. -/
def addAll (s : CapabilitySet) (versions : List (UInt32 × UInt32)) : CapabilitySet :=
  versions.foldl (fun s v => s.addVersions v.1 v.2) s

variable {s t : CapabilitySet} {u v : UInt32 × UInt32} {versions : List (UInt32 × UInt32)}

/-- The tags are those of the known versions that are not later. -/
theorem mem_versionTags_iff_notLater (versions : List (UInt32 × UInt32)) {suffix x : String}
    {known : List (List Nat)} (hknown : ∀ minors ∈ known, minors.Pairwise (· < ·))
    (h : versionsOf known = versions.map fun u => (u.1.toNat, u.2.toNat)) :
    x ∈ versionTags suffix known v.1 v.2 ↔
      ∃ u ∈ versions, NotLater u v ∧ x = versionTag suffix u.1.toNat u.2.toNat := by
  rw [mem_versionTags_iff hknown, h]
  constructor
  · rintro ⟨tier, m, hmem, hcovers, hx⟩
    obtain ⟨u, hu, hsame⟩ := List.mem_map.mp hmem
    obtain ⟨rfl, rfl⟩ := Prod.mk.inj hsame
    exact ⟨u, hu, NotLater.iff_toNat.mpr hcovers, hx⟩
  · rintro ⟨u, hu, huv, hx⟩
    exact ⟨_, _, List.mem_map.mpr ⟨u, hu, rfl⟩, NotLater.iff_toNat.mp huv, hx⟩

/-- Since the tags are kept in order, a set is settled by what it contains. -/
theorem Subset.antisymm (hst : s ⊆ t) (hts : t ⊆ s) : s = t := by
  have : Std.Irrefl Text.Utf8.Before := ⟨Text.Utf8.Before.irrefl⟩
  have : Std.Antisymm Text.Utf8.Before :=
    ⟨fun a b hab hba => absurd (hab.trans hba) (Text.Utf8.Before.irrefl a)⟩
  have htags : s.tags = t.tags := s.ascending.eq_of_mem_iff t.ascending fun x => by
    rw [← contains_iff, ← contains_iff]
    exact ⟨hst x, hts x⟩
  cases s
  cases t
  cases htags
  rfl

theorem subset_addVersions (s : CapabilitySet) (major minor : UInt32) :
    s ⊆ s.addVersions major minor :=
  fun _ hx => contains_addVersions_iff.mpr (.inl hx)

/-- A set that advertises sharing did so before the versions were added. -/
theorem shares_addVersions_iff {major minor : UInt32} :
    (∃ e ∈ sharingExtensions, (s.addVersions major minor).contains e = true) ↔
      ∃ e ∈ sharingExtensions, s.contains e = true := by
  refine exists_congr fun e => and_congr_right fun he => ?_
  rw [contains_addVersions_iff, or_iff_left]
  rintro (hcore | ⟨-, hsharing⟩)
  · exact sharing_notMem_versionTags he hcore
  · exact sharing_notMem_versionTags he hsharing

theorem addVersions_mono (hst : s ⊆ t) (huv : NotLater u v) :
    s.addVersions u.1 u.2 ⊆ t.addVersions v.1 v.2 := by
  intro x hx
  rw [contains_addVersions_iff] at hx ⊢
  rcases hx with hx | hcore | ⟨⟨e, he, hshares⟩, hsharing⟩
  · exact .inl (hst x hx)
  · exact .inr (.inl (huv.versionTags_subset (by decide) hcore))
  · exact .inr (.inr ⟨⟨e, he, hst e hshares⟩, huv.versionTags_subset (by decide) hsharing⟩)

/-- No tag comes of two versions that the later one does not bring alone. -/
theorem addVersions_addVersions_subset {w : UInt32 × UInt32} (huw : NotLater u w)
    (hvw : NotLater v w) :
    (s.addVersions u.1 u.2).addVersions v.1 v.2 ⊆ s.addVersions w.1 w.2 := by
  intro x hx
  rw [contains_addVersions_iff, shares_addVersions_iff] at hx
  rcases hx with hx | hcore | ⟨hshares, hsharing⟩
  · exact addVersions_mono (fun _ h => h) huw x hx
  · exact contains_addVersions_iff.mpr
      (.inr (.inl (hvw.versionTags_subset (by decide) hcore)))
  · exact contains_addVersions_iff.mpr
      (.inr (.inr ⟨hshares, hvw.versionTags_subset (by decide) hsharing⟩))

/-- A version adds nothing after a later one. -/
theorem addVersions_of_later (h : NotLater u v) :
    (s.addVersions v.1 v.2).addVersions u.1 u.2 = s.addVersions v.1 v.2 :=
  Subset.antisymm (addVersions_addVersions_subset (.refl v) h) (subset_addVersions _ _ _)

/-- An earlier version is made up for by the next. -/
theorem addVersions_of_earlier (h : NotLater u v) :
    (s.addVersions u.1 u.2).addVersions v.1 v.2 = s.addVersions v.1 v.2 :=
  Subset.antisymm (addVersions_addVersions_subset h (.refl v))
    (addVersions_mono (subset_addVersions _ _ _) (.refl v))

/-- After the first version, the set is always one to which the latest so far was added. -/
theorem addAll_cons (s : CapabilitySet) (first : UInt32 × UInt32)
    (rest : List (UInt32 × UInt32)) :
    ∃ v ∈ first :: rest, (∀ u ∈ first :: rest, NotLater u v) ∧
      s.addAll (first :: rest) = s.addVersions v.1 v.2 := by
  induction rest generalizing first with
  | nil => exact ⟨first, by simp, by simp [NotLater.refl], rfl⟩
  | cons second rest ih =>
    -- The later of the first two stands in for both.
    have hstep : ∃ v, (v = first ∨ v = second) ∧ NotLater first v ∧ NotLater second v ∧
        s.addAll (first :: second :: rest) = s.addAll (v :: rest) := by
      rcases NotLater.total first second with h | h
      · refine ⟨second, .inr rfl, h, .refl _, ?_⟩
        simp only [addAll, List.foldl_cons, addVersions_of_earlier h]
      · refine ⟨first, .inl rfl, .refl _, h, ?_⟩
        simp only [addAll, List.foldl_cons, addVersions_of_later h]
    obtain ⟨later, hlater, hfirst, hsecond, hsame⟩ := hstep
    obtain ⟨v, hv, hall, hadded⟩ := ih later
    have hv' := hall later List.mem_cons_self
    refine ⟨v, ?_, ?_, hsame.trans hadded⟩
    · rcases List.mem_cons.mp hv with rfl | hv
      · rcases hlater with rfl | rfl <;> simp
      · simp [hv]
    · intro u hu
      rcases List.mem_cons.mp hu with rfl | hu
      · exact hfirst.trans hv'
      · rcases List.mem_cons.mp hu with rfl | hu
        · exact hsecond.trans hv'
        · exact hall u (List.mem_cons_of_mem _ hu)

/-- Of versions that are all added, the latest is all that counts. -/
theorem addAll_of_latest (hv : v ∈ versions) (hall : ∀ u ∈ versions, NotLater u v) :
    s.addAll versions = s.addVersions v.1 v.2 := by
  cases versions with
  | nil => cases hv
  | cons first rest =>
    obtain ⟨v', hv', hall', hadded⟩ := s.addAll_cons first rest
    rw [hadded, (hall' v hv).antisymm (hall v' hv')]

/-- How a set takes versions that are added to it. -/
structure TakesVersions (s : CapabilitySet) : Prop where
  /-- A version brings the tags of all that are not later, those for sharing only to a set that
  advertises it. -/
  brings : ∀ v x, (s.addVersions v.1 v.2).contains x = true ↔ s.contains x = true ∨
    (∃ u ∈ [(1, 0), (1, 1), (1, 2), (2, 0)],
      NotLater u v ∧ x = versionTag "" u.1.toNat u.2.toNat) ∨
    (∃ e ∈ ["cl_khr_gl_sharing", "cl_APPLE_gl_sharing"], s.contains e = true) ∧
      ∃ u ∈ [(1, 0), (1, 2)], NotLater u v ∧ x = versionTag "GL" u.1.toNat u.2.toNat
  /-- Of any versions that are added one after the other one is the latest, and it could have been
  added alone. -/
  latest : ∀ versions, versions ≠ [] → ∃ v ∈ versions, (∀ u ∈ versions, NotLater u v) ∧
    s.addAll versions = s.addVersions v.1 v.2
  /-- So neither their order nor how often each is added matters, -/
  any_order : ∀ versions versions', (∀ v, v ∈ versions ↔ v ∈ versions') →
    s.addAll versions = s.addAll versions'
  /-- nor one that is not later than what was added before. -/
  earlier : ∀ versions u v, v ∈ versions → NotLater u v →
    (s.addAll versions).addVersions u.1 u.2 = s.addAll versions
  /-- No tag is lost. -/
  keeps : ∀ major minor, s ⊆ s.addVersions major minor
  /-- Neither a larger set nor a later version comes to less. -/
  mono : ∀ t u v, s ⊆ t → NotLater u v → s.addVersions u.1 u.2 ⊆ t.addVersions v.1 v.2

/-- Every set takes versions like this, however it came about. -/
theorem takesVersions (s : CapabilitySet) : s.TakesVersions := by
  have hlatest : ∀ versions, versions ≠ [] → ∃ v ∈ versions,
      (∀ u ∈ versions, NotLater u v) ∧ s.addAll versions = s.addVersions v.1 v.2 := by
    intro versions hsome
    obtain ⟨first, rest, rfl⟩ := List.exists_cons_of_ne_nil hsome
    exact s.addAll_cons first rest
  constructor
  case brings =>
    intro v x
    rw [contains_addVersions_iff,
      mem_versionTags_iff_notLater [(1, 0), (1, 1), (1, 2), (2, 0)] (by decide) (by decide),
      mem_versionTags_iff_notLater [(1, 0), (1, 2)] (by decide) (by decide)]
    rfl
  case latest => exact hlatest
  case any_order =>
    intro versions versions' hsame
    by_cases hsome : versions = []
    · have hsome' : versions' = [] := by
        refine List.eq_nil_iff_forall_not_mem.mpr fun v hv => ?_
        rw [← hsame v, hsome] at hv
        cases hv
      rw [hsome, hsome']
    · obtain ⟨v, hv, hall, hadded⟩ := hlatest versions hsome
      rw [hadded, addAll_of_latest ((hsame v).mp hv) fun u hu => hall u ((hsame u).mpr hu)]
  case earlier =>
    intro versions u v hv huv
    obtain ⟨w, -, hall, hadded⟩ := hlatest versions (List.ne_nil_of_mem hv)
    rw [hadded]
    exact addVersions_of_later (huv.trans (hall v hv))
  case keeps => exact s.subset_addVersions
  case mono => exact fun t u v => addVersions_mono

end CapabilitySet

end NativeBinding.OpenCL
