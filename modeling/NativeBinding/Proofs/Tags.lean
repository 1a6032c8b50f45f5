import NativeBinding.OpenCL.CapabilitySet
import NativeBinding.Proofs.Words

/-! Which tags a set holds: those that were put in, and those of the versions that it covers. -/
namespace NativeBinding

/-- A text is settled by its encoding. -/
theorem Text.Utf8.encode_inj {a b : String} (h : encode a = encode b) : a = b := by
  have hbytes : a.toList.utf8Encode = b.toList.utf8Encode := by
    rw [List.utf8Encode, List.utf8Encode]
    exact congrArg List.toByteArray h
  rw [String.utf8Encode_toList, String.utf8Encode_toList] at hbytes
  exact String.toByteArray_inj.mp hbytes

/-- Of two texts one comes before the other. -/
theorem Text.Utf8.Before.eq_of_neither {a b : String} (hab : ¬ Before a b) (hba : ¬ Before b a) :
    a = b :=
  encode_inj (List.le_antisymm hba hab)

namespace OpenCL

theorem mem_insertTag_iff {tag x : String} {ts : List String} :
    x ∈ insertTag tag ts ↔ x = tag ∨ x ∈ ts := by
  refine ⟨mem_insertTag, ?_⟩
  induction ts with
  | nil => simp [insertTag]
  | cons t ts ih =>
    intro hx
    unfold insertTag
    split
    · simpa using hx
    · rename_i hbefore
      split
      · rcases hx with rfl | hx
        · exact List.mem_cons_of_mem _ (ih (.inl rfl))
        · rcases List.mem_cons.mp hx with rfl | hx
          · exact List.mem_cons_self
          · exact List.mem_cons_of_mem _ (ih (.inr hx))
      · rename_i hafter
        obtain rfl := Text.Utf8.Before.eq_of_neither hbefore hafter
        rcases hx with rfl | hx
        · exact List.mem_cons_self
        · exact hx

/-- The version `major.minor` is `tier.m` or later. -/
def Covers (major minor : UInt32) (tier m : Nat) : Prop :=
  tier < major.toNat ∨ tier = major.toNat ∧ m ≤ minor.toNat

theorem Version.atLeast_iff (v : Version) (major minor : UInt32) :
    v.atLeast major minor = true ↔ Covers v.major v.minor major.toNat minor.toNat := by
  rw [atLeast, Bool.or_eq_true, Bool.and_eq_true, decide_eq_true_iff, decide_eq_true_iff,
    beq_iff_eq, ← UInt32.toNat_inj, UInt32.lt_iff_toNat_lt, UInt32.le_iff_toNat_le,
    eq_comm (a := v.major.toNat)]
  rfl

namespace CapabilitySet

variable {s : CapabilitySet} {tag x : String}

theorem contains_iff : s.contains x = true ↔ x ∈ s.tags := List.contains_iff_mem

theorem contains_insert : (s.insert tag).contains x = true ↔ x = tag ∨ s.contains x = true := by
  rw [contains_iff, contains_iff]
  exact mem_insertTag_iff

theorem contains_insertAll {tags : List String} :
    (s.insertAll tags).contains x = true ↔ x ∈ tags ∨ s.contains x = true := by
  unfold insertAll
  induction tags generalizing s with
  | nil => simp
  | cons tag tags ih =>
    rw [List.foldl_cons, ih, contains_insert, List.mem_cons, or_left_comm, or_assoc]

theorem contains_ofList {tags : List String} : (ofList tags).contains x = true ↔ x ∈ tags := by
  rw [ofList, contains_insertAll]
  simp [contains, empty]

theorem contains_ofText {text : String} :
    (ofText text).contains x = true ↔ x.toList ∈ Text.words text.toList := by
  rw [ofText, contains_ofList, List.mem_map]
  constructor
  · rintro ⟨word, hword, rfl⟩
    rwa [String.toList_ofList]
  · intro hword
    exact ⟨_, hword, String.ofList_toList⟩

/-- Of an ascending list, a condition that passes down to smaller numbers cuts off the end. -/
theorem mem_takeWhile_iff {holds : Nat → Bool} {minors : List Nat} {m : Nat}
    (hdown : ∀ a b, a < b → holds b = true → holds a = true) (h : minors.Pairwise (· < ·)) :
    m ∈ minors.takeWhile holds ↔ m ∈ minors ∧ holds m = true := by
  induction minors with
  | nil => simp
  | cons first rest ih =>
    obtain ⟨hfirst, hrest⟩ := List.pairwise_cons.mp h
    rw [List.takeWhile_cons]
    by_cases hholds : holds first = true
    · rw [if_pos hholds, List.mem_cons, List.mem_cons, ih hrest, or_and_right]
      refine or_congr_left ⟨fun hm => ⟨hm, hm ▸ hholds⟩, fun hm => hm.1⟩
    · rw [if_neg hholds]
      refine ⟨fun hm => absurd hm List.not_mem_nil, ?_⟩
      rintro ⟨hm, hlater⟩
      rcases List.mem_cons.mp hm with rfl | hm
      · exact (hholds hlater).elim
      · exact (hholds (hdown first m (hfirst m hm) hlater)).elim

theorem mem_take_zipIdx_iff {known : List (List Nat)} {minors : List Nat} {tier start n : Nat} :
    (minors, tier) ∈ (known.zipIdx start).take n ↔
      (minors, tier) ∈ known.zipIdx start ∧ tier < start + n := by
  induction known generalizing start n with
  | nil => simp
  | cons first rest ih =>
    cases n with
    | zero =>
      simp only [List.take_zero, List.not_mem_nil, false_iff, not_and]
      intro hmem
      have := (List.mem_zipIdx hmem).1
      omega
    | succ n =>
      rw [List.zipIdx_cons, List.take_succ_cons, List.mem_cons, List.mem_cons, ih, or_and_right]
      refine or_congr ⟨fun hsame => ⟨hsame, ?_⟩, fun h => h.1⟩ (and_congr_right fun _ => by omega)
      have := (Prod.mk.inj hsame).2
      omega

/-- The minor versions of one tier that are not later than `major.minor`. -/
theorem mem_tier_iff {minors : List Nat} {major minor : UInt32} {tier m : Nat}
    (h : minors.Pairwise (· < ·)) :
    m ∈ minors.takeWhile (fun m => !(tier == major.toNat && minor.toNat < m)) ↔
      m ∈ minors ∧ (tier = major.toNat → m ≤ minor.toNat) := by
  rw [mem_takeWhile_iff ?_ h]
  · simp [← Decidable.imp_iff_not_or]
  · intro a b hab hb
    simp only [Bool.not_eq_true', Bool.and_eq_false_imp, beq_iff_eq, decide_eq_false_iff_not,
      Nat.not_lt] at hb ⊢
    intro htier
    exact Nat.le_trans (Nat.le_of_lt hab) (hb htier)

/-- The tag of a version. -/
def versionTag (suffix : String) (tier m : Nat) : String := s!"OpenCL{tier}{m}{suffix}"

/-- The versions of a table of minor versions. -/
def versionsOf (known : List (List Nat)) : List (Nat × Nat) :=
  (known.zipIdx 1).flatMap fun (minors, tier) => minors.map fun m => (tier, m)

theorem mem_versionsOf_iff {known : List (List Nat)} {tier m : Nat} :
    (tier, m) ∈ versionsOf known ↔ ∃ minors, (minors, tier) ∈ known.zipIdx 1 ∧ m ∈ minors := by
  unfold versionsOf
  constructor
  · intro hmem
    obtain ⟨⟨minors, tier'⟩, htier, hm⟩ := List.mem_flatMap.mp hmem
    obtain ⟨m', hm', hsame⟩ := List.mem_map.mp hm
    obtain ⟨rfl, rfl⟩ := Prod.mk.inj hsame
    exact ⟨minors, htier, hm'⟩
  · rintro ⟨minors, htier, hm⟩
    exact List.mem_flatMap.mpr ⟨(minors, tier), htier, List.mem_map.mpr ⟨m, hm, rfl⟩⟩

/-- The tags are those of the known versions that are covered. -/
theorem mem_versionTags_iff {suffix : String} {known : List (List Nat)} {major minor : UInt32}
    (h : ∀ minors ∈ known, minors.Pairwise (· < ·)) :
    x ∈ versionTags suffix known major minor ↔
      ∃ tier m, (tier, m) ∈ versionsOf known ∧ Covers major minor tier m ∧
        x = versionTag suffix tier m := by
  have hascending : ∀ {minors tier}, (minors, tier) ∈ known.zipIdx 1 → minors.Pairwise (· < ·) :=
    fun hmem => h _ (List.fst_mem_of_mem_zipIdx hmem)
  unfold versionTags Covers
  rw [List.mem_flatMap]
  constructor
  · rintro ⟨⟨minors, tier⟩, htier, hx⟩
    obtain ⟨htier, hbound⟩ := mem_take_zipIdx_iff.mp htier
    obtain ⟨m, hm, rfl⟩ := List.mem_map.mp hx
    obtain ⟨hm, hminor⟩ := (mem_tier_iff (hascending htier)).mp hm
    exact ⟨tier, m, mem_versionsOf_iff.mpr ⟨minors, htier, hm⟩, by omega, rfl⟩
  · rintro ⟨tier, m, hknown, hcovers, rfl⟩
    obtain ⟨minors, htier, hm⟩ := mem_versionsOf_iff.mp hknown
    refine ⟨(minors, tier), mem_take_zipIdx_iff.mpr ⟨htier, by omega⟩, ?_⟩
    exact List.mem_map.mpr ⟨m, (mem_tier_iff (hascending htier)).mpr ⟨hm, by omega⟩, rfl⟩

/-- No extension that advertises sharing is the tag of a version. -/
theorem sharing_notMem_versionTags {suffix e : String} {known : List (List Nat)}
    {major minor : UInt32} (he : e ∈ sharingExtensions) :
    e ∉ versionTags suffix known major minor := by
  intro hmem
  obtain ⟨⟨minors, tier⟩, -, hmem⟩ := List.mem_flatMap.mp hmem
  obtain ⟨m, -, rfl⟩ := List.mem_map.mp hmem
  have hletter : ∀ e ∈ sharingExtensions, e.toList.head? = some 'c' := by decide
  have hfirst := hletter _ he
  simp [toString] at hfirst

theorem contains_addVersions_iff {major minor : UInt32} :
    (s.addVersions major minor).contains x = true ↔
      s.contains x = true ∨ x ∈ versionTags "" coreMinors major minor ∨
        (∃ e ∈ sharingExtensions, s.contains e = true) ∧
          x ∈ versionTags "GL" sharingMinors major minor := by
  have hsharing : sharingExtensions.any
      (s.insertAll (versionTags "" coreMinors major minor)).contains = true ↔
        ∃ e ∈ sharingExtensions, s.contains e = true := by
    rw [List.any_eq_true]
    refine exists_congr fun e => and_congr_right fun he => ?_
    rw [contains_insertAll, or_iff_right (sharing_notMem_versionTags he)]
  unfold addVersions
  by_cases hany : ∃ e ∈ sharingExtensions, s.contains e = true
  · rw [if_pos (hsharing.mpr hany), contains_insertAll, contains_insertAll, and_iff_right hany]
    rw [or_comm, or_comm (a := x ∈ versionTags "" coreMinors major minor), or_assoc]
  · rw [if_neg (mt hsharing.mp hany), contains_insertAll]
    simp only [hany, false_and, or_false]
    exact or_comm

theorem contains_build_iff {v : Version} {text : String} :
    (build v text).contains x = true ↔
      x.toList ∈ Text.words text.toList ∨ x ∈ versionTags "" coreMinors v.major v.minor ∨
        (∃ e ∈ sharingExtensions, e.toList ∈ Text.words text.toList) ∧
          x ∈ versionTags "GL" sharingMinors v.major v.minor := by
  rw [build, contains_addVersions_iff, contains_ofText]
  simp only [contains_ofText]

/-- The set of a platform holds the tag of a known version if it covers the version, or if the
platform names the tag among its extensions. -/
theorem contains_build_coreTag_iff (v : Version) (text : String) {tier m : Nat}
    (h : (tier, m) ∈ versionsOf coreMinors) :
    (build v text).contains (versionTag "" tier m) = true ↔
      (versionTag "" tier m).toList ∈ Text.words text.toList ∨ Covers v.major v.minor tier m := by
  have hcore : ∀ a ∈ versionsOf coreMinors, ∀ b ∈ versionsOf coreMinors,
      versionTag "" a.1 a.2 = versionTag "" b.1 b.2 → a = b := by decide
  have hsharing : ∀ a ∈ versionsOf coreMinors, ∀ b ∈ versionsOf sharingMinors,
      versionTag "" a.1 a.2 ≠ versionTag "GL" b.1 b.2 := by decide
  rw [contains_build_iff, mem_versionTags_iff (by decide), mem_versionTags_iff (by decide)]
  refine or_congr_right ⟨?_, ?_⟩
  · rintro (⟨tier', m', hmem, hcovers, htag⟩ | ⟨-, tier', m', hmem, -, htag⟩)
    · obtain ⟨rfl, rfl⟩ := Prod.mk.inj (hcore _ h _ hmem htag)
      exact hcovers
    · exact (hsharing _ h _ hmem htag).elim
  · intro hcovers
    exact .inl ⟨tier, m, h, hcovers, rfl⟩

/-- Of the versions of a table, a version covers those that it is not earlier than. -/
theorem exists_covered_iff {known : List (List Nat)} {versions : List (UInt32 × UInt32)}
    (h : versionsOf known = versions.map fun n => (n.1.toNat, n.2.toNat)) (v : Version)
    (suffix x : String) :
    (∃ tier m, (tier, m) ∈ versionsOf known ∧ Covers v.major v.minor tier m ∧
        x = versionTag suffix tier m) ↔
      ∃ major minor, (major, minor) ∈ versions ∧ v.atLeast major minor = true ∧
        x = versionTag suffix major.toNat minor.toNat := by
  rw [h]
  constructor
  · rintro ⟨tier, m, hmem, hcovers, hx⟩
    obtain ⟨⟨major, minor⟩, hknown, hsame⟩ := List.mem_map.mp hmem
    obtain ⟨rfl, rfl⟩ := Prod.mk.inj hsame
    exact ⟨major, minor, hknown, (v.atLeast_iff major minor).mpr hcovers, hx⟩
  · rintro ⟨major, minor, hknown, hlater, hx⟩
    exact ⟨major.toNat, minor.toNat, List.mem_map.mpr ⟨(major, minor), hknown, rfl⟩,
      (v.atLeast_iff major minor).mp hlater, hx⟩

/-- The set of a platform holds the words of its extension text, the tag of each known version that
its own is not earlier than, and, if the text advertises sharing, those of the sharing versions. -/
theorem contains_build_iff_atLeast (v : Version) (text x : String) :
    (build v text).contains x = true ↔
      Text.IsWord x.toList text.toList ∨
      (∃ major minor : UInt32, (major, minor) ∈ [(1, 0), (1, 1), (1, 2), (2, 0)] ∧
        v.atLeast major minor = true ∧ x = s!"OpenCL{major.toNat}{minor.toNat}") ∨
      (∃ e ∈ ["cl_khr_gl_sharing", "cl_APPLE_gl_sharing"],
        Text.IsWord e.toList text.toList) ∧
      ∃ major minor : UInt32, (major, minor) ∈ [(1, 0), (1, 2)] ∧
        v.atLeast major minor = true ∧ x = s!"OpenCL{major.toNat}{minor.toNat}GL" := by
  have hcore : x ∈ versionTags "" coreMinors v.major v.minor ↔
      ∃ major minor : UInt32, (major, minor) ∈ [(1, 0), (1, 1), (1, 2), (2, 0)] ∧
        v.atLeast major minor = true ∧ x = versionTag "" major.toNat minor.toNat := by
    rw [mem_versionTags_iff (by decide)]
    exact exists_covered_iff (by decide) v "" x
  have hsharing : x ∈ versionTags "GL" sharingMinors v.major v.minor ↔
      ∃ major minor : UInt32, (major, minor) ∈ [(1, 0), (1, 2)] ∧
        v.atLeast major minor = true ∧ x = versionTag "GL" major.toNat minor.toNat := by
    rw [mem_versionTags_iff (by decide)]
    exact exists_covered_iff (by decide) v "GL" x
  have hplain : ∀ tier m : Nat, versionTag "" tier m = s!"OpenCL{tier}{m}" :=
    fun tier m => String.append_empty
  rw [contains_build_iff, hcore, hsharing]
  simp only [Text.mem_words_iff, hplain]
  rfl

end CapabilitySet

end OpenCL

end NativeBinding
