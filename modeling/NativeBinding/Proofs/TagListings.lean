import Mathlib.Data.List.Perm.Subperm
import Mathlib.Data.Set.Card
import NativeBinding.Proofs.AddedVersions

/-!
Sets of tags as lists. However a set came about, it lists what was added to it, each tag once and in
the order of the stored bytes.
-/
namespace NativeBinding

namespace Text.Utf8

variable {a b c : String}

/-- The order in which a sort by bytes puts texts. -/
def notAfter (a b : String) : Bool := decide (a.toUTF8.data.toList ≤ b.toUTF8.data.toList)

/-- The encoding of a text is the bytes in which it is stored. -/
theorem encode_eq_toUTF8 (s : String) : encode s = s.toUTF8.data.toList := by
  have hstored : s.toUTF8 = (encode s).toByteArray := String.utf8Encode_toList.symm
  rw [hstored, List.data_toByteArray]

theorem notAfter_iff : notAfter a b = true ↔ encode a ≤ encode b := by
  rw [notAfter, decide_eq_true_iff, encode_eq_toUTF8, encode_eq_toUTF8]

theorem notAfter_trans (a b c : String) (hab : notAfter a b = true) (hbc : notAfter b c = true) :
    notAfter a c = true := by
  rw [notAfter_iff] at *
  exact List.le_trans hab hbc

theorem notAfter_total (a b : String) : (notAfter a b || notAfter b a) = true := by
  rw [Bool.or_eq_true, notAfter_iff, notAfter_iff]
  exact List.le_total _ _

theorem notAfter_antisymm (hab : notAfter a b = true) (hba : notAfter b a = true) : a = b := by
  rw [notAfter_iff] at hab hba
  exact encode_inj (List.le_antisymm hab hba)

theorem Before.notAfter (h : Before a b) : notAfter a b = true :=
  notAfter_iff.mpr (List.le_of_lt h)

end Text.Utf8

namespace OpenCL

open Text.Utf8 (notAfter)

namespace CapabilitySet

variable {s t : CapabilitySet} {x : String} {ts : List String}

theorem nodup_tags (s : CapabilitySet) : s.tags.Nodup := by
  apply s.ascending.imp
  rintro x y hxy rfl
  exact Text.Utf8.Before.irrefl x hxy

/-- The members of a set, listed once each in any order, come to its tags when they are sorted. -/
theorem mergeSort_eq_tags (hnodup : ts.Nodup) (h : ∀ x, x ∈ ts ↔ s.contains x = true) :
    ts.mergeSort notAfter = s.tags := by
  have hperm : ts.Perm s.tags := by
    apply (List.perm_ext_iff_of_nodup hnodup s.nodup_tags).mpr
    intro x
    rw [h x, contains_iff]
  have hsorted := List.pairwise_mergeSort Text.Utf8.notAfter_trans Text.Utf8.notAfter_total ts
  have hlisted := s.ascending.imp Text.Utf8.Before.notAfter
  apply List.Perm.eq_of_pairwise _ hsorted hlisted ((List.mergeSort_perm ts notAfter).trans hperm)
  intro x y _ _
  exact Text.Utf8.notAfter_antisymm

/-- A set counts each of its members once. -/
theorem size_eq_ncard {p : String → Prop} (h : ∀ x, s.contains x = true ↔ p x) :
    s.size = {x | p x}.ncard := by
  have hmembers : {x | p x} = ↑s.tags.toFinset := by
    ext x
    rw [Set.mem_ofPred_eq, ← h x, List.coe_toFinset, Set.mem_ofPred_eq, contains_iff]
  rw [hmembers, Set.ncard_coe_finset, List.toFinset_card_of_nodup s.nodup_tags, size]

theorem eq_iff_contains : s = t ↔ ∀ x, s.contains x = t.contains x := by
  constructor
  · rintro rfl x
    rfl
  · intro h
    apply Subset.antisymm
    · intro x hx
      rwa [← h x]
    · intro x hx
      rwa [h x]

theorem eq_iff_tags : s = t ↔ s.tags = t.tags := by
  constructor
  · rintro rfl
    rfl
  · intro h
    apply eq_iff_contains.mpr
    intro x
    rw [contains, contains, h]

/-- A set that lies in another of its size is this other. -/
theorem eq_iff_size_subset : s = t ↔ s.size = t.size ∧ s ⊆ t := by
  constructor
  · rintro rfl
    exact ⟨rfl, fun _ hx => hx⟩
  · rintro ⟨hsize, hsub⟩
    have htags : s.tags ⊆ t.tags := by
      intro x hx
      exact contains_iff.mp (hsub x (contains_iff.mpr hx))
    have hperm : s.tags.Perm t.tags :=
      (s.nodup_tags.subperm htags).perm_of_length_le hsize.ge
    apply Subset.antisymm hsub
    intro x hx
    exact contains_iff.mpr (hperm.mem_iff.mpr (contains_iff.mp hx))

/-- The ways to come by a set: from a list of tags or from the words of a text, to which tags and
versions are added one after the other. -/
inductive Assembly where
  | collected (tags : List String)
  | tokenized (text : String)
  | inserted (front : Assembly) (tag : String)
  | versioned (front : Assembly) (major minor : UInt32)

namespace Assembly

/-- The set that comes about. -/
def set : Assembly → CapabilitySet
  | collected tags => ofList tags
  | tokenized text => ofText text
  | inserted front tag => front.set.insert tag
  | versioned front major minor => front.set.addVersions major minor

/-- All that is added on the way, in order and each time that it is added. -/
def added : Assembly → List String
  | collected tags => tags
  | tokenized text => (Text.words text.toList).map String.ofList
  | inserted front tag => front.added ++ [tag]
  | versioned front major minor =>
    front.added ++ versionTags "" coreMinors major minor ++
      if ∃ e ∈ sharingExtensions, e ∈ front.added then
        versionTags "GL" sharingMinors major minor
      else []

theorem mem_added_versioned {front : Assembly} {major minor : UInt32} :
    x ∈ (front.versioned major minor).added ↔
      x ∈ front.added ∨ x ∈ versionTags "" coreMinors major minor ∨
        (∃ e ∈ sharingExtensions, e ∈ front.added) ∧
          x ∈ versionTags "GL" sharingMinors major minor := by
  rw [added, List.mem_append, List.mem_append, or_assoc]
  by_cases hshares : ∃ e ∈ sharingExtensions, e ∈ front.added
  · rw [if_pos hshares, and_iff_right hshares]
  · simp only [hshares, if_false, List.not_mem_nil, false_and]

/-- Whatever was added is in the set, and nothing else. -/
theorem contains_set_iff (a : Assembly) : a.set.contains x = true ↔ x ∈ a.added := by
  induction a generalizing x with
  | collected tags => exact contains_ofList
  | tokenized text => exact contains_ofList
  | inserted front tag ih =>
    rw [set, contains_insert, ih, added, List.mem_append, List.mem_singleton, or_comm]
  | versioned front major minor ih =>
    rw [set, contains_addVersions_iff, mem_added_versioned, ih]
    simp only [ih]

/-- How a set that came about like this lists and compares. -/
structure ListsTags (a : Assembly) : Prop where
  /-- Each tag stands before those with greater bytes, so none is listed twice. -/
  ascending : a.set.tags.Pairwise fun x y => x.toUTF8.data.toList < y.toUTF8.data.toList
  mem_tags : ∀ x, x ∈ a.set.tags ↔ a.set.contains x = true
  contains_iff : ∀ x, a.set.contains x = true ↔ x ∈ a.added
  length_tags : a.set.tags.length = a.set.size
  size_eq : a.set.size = {x | x ∈ a.added}.ncard
  /-- In whatever order the members are enumerated, sorting them by bytes comes to this list. -/
  sorted : ∀ ts : List String, ts.Nodup → (∀ x, x ∈ ts ↔ x ∈ a.added) →
    ts.mergeSort notAfter = a.set.tags
  /-- Two sets are equal if they have the same members, -/
  eq_iff_contains : ∀ b : Assembly, a.set = b.set ↔ ∀ x, a.set.contains x = b.set.contains x
  /-- if the one lies in the other and is of its size, -/
  eq_iff_size_subset : ∀ b : Assembly, a.set = b.set ↔ a.set.size = b.set.size ∧ a.set ⊆ b.set
  /-- if they list the same tags, -/
  eq_iff_tags : ∀ b : Assembly, a.set = b.set ↔ a.set.tags = b.set.tags
  /-- or if the same was added, in whatever order and however often. -/
  eq_iff_added : ∀ b : Assembly, a.set = b.set ↔ ∀ x, x ∈ a.added ↔ x ∈ b.added

/-- A set has one list of tags, settled by what was added to it. -/
theorem listsTags (a : Assembly) : a.ListsTags := by
  constructor
  case ascending =>
    apply a.set.ascending.imp
    intro x y hxy
    rwa [← Text.Utf8.encode_eq_toUTF8, ← Text.Utf8.encode_eq_toUTF8]
  case mem_tags =>
    intro x
    exact CapabilitySet.contains_iff.symm
  case contains_iff =>
    intro x
    exact a.contains_set_iff
  case length_tags => rfl
  case size_eq => exact size_eq_ncard fun x => a.contains_set_iff
  case sorted =>
    intro ts hnodup hsame
    apply mergeSort_eq_tags hnodup
    intro x
    rw [hsame x, a.contains_set_iff]
  case eq_iff_contains =>
    intro b
    exact CapabilitySet.eq_iff_contains
  case eq_iff_size_subset =>
    intro b
    exact CapabilitySet.eq_iff_size_subset
  case eq_iff_tags =>
    intro b
    exact CapabilitySet.eq_iff_tags
  case eq_iff_added =>
    intro b
    rw [CapabilitySet.eq_iff_contains]
    apply forall_congr'
    intro x
    rw [Bool.eq_iff_iff, a.contains_set_iff, b.contains_set_iff]

end Assembly

end CapabilitySet

end OpenCL

end NativeBinding
