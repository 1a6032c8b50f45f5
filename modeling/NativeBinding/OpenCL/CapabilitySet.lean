import NativeBinding.OpenCL.Version
import NativeBinding.Text.Utf8

/-!
Sets of capability tags. Version numbers and extension names are folded into one set, so that a
check for a feature is a membership test. Each set has one representation: its tags in ascending
order.
-/
namespace NativeBinding.OpenCL

open Text.Utf8 (Before)

/-- Puts a tag in its place in an ascending list, unless it is there. -/
def insertTag (tag : String) : List String → List String
  | [] => [tag]
  | t :: ts =>
    if Before tag t then tag :: t :: ts
    else if Before t tag then t :: insertTag tag ts
    else t :: ts

theorem mem_insertTag {tag x : String} {ts : List String} (h : x ∈ insertTag tag ts) :
    x = tag ∨ x ∈ ts := by
  induction ts with
  | nil => simpa [insertTag] using h
  | cons t ts ih =>
    unfold insertTag at h
    split at h
    · simpa using h
    · split at h
      · obtain rfl | h := List.mem_cons.mp h
        · simp
        · obtain h | h := ih h <;> simp [h]
      · exact .inr h

theorem pairwise_insertTag {tag : String} {ts : List String} (h : ts.Pairwise Before) :
    (insertTag tag ts).Pairwise Before := by
  induction ts with
  | nil => simp [insertTag]
  | cons t ts ih =>
    obtain ⟨ht, hts⟩ := List.pairwise_cons.mp h
    unfold insertTag
    split
    · rename_i hlt
      refine List.pairwise_cons.mpr ⟨fun x hx => ?_, h⟩
      obtain rfl | hx := List.mem_cons.mp hx
      · exact hlt
      · exact hlt.trans (ht x hx)
    · split
      · rename_i hlt
        refine List.pairwise_cons.mpr ⟨fun x hx => ?_, ih hts⟩
        obtain rfl | hx := mem_insertTag hx
        · exact hlt
        · exact ht x hx
      · exact h

/-- A set of capability tags and extension names. -/
structure CapabilitySet where
  /-- The tags in the order of their encodings, each once. -/
  tags : List String
  ascending : tags.Pairwise Before
  deriving DecidableEq

/-- The extensions that advertise the sharing of graphics objects. -/
def sharingExtensions : List String := ["cl_khr_gl_sharing", "cl_APPLE_gl_sharing"]

namespace CapabilitySet

def empty : CapabilitySet := ⟨[], .nil⟩

def contains (s : CapabilitySet) (tag : String) : Bool := s.tags.contains tag

def size (s : CapabilitySet) : Nat := s.tags.length

def isEmpty (s : CapabilitySet) : Bool := s.tags.isEmpty

def insert (s : CapabilitySet) (tag : String) : CapabilitySet :=
  ⟨insertTag tag s.tags, pairwise_insertTag s.ascending⟩

def insertAll (s : CapabilitySet) (tags : List String) : CapabilitySet := tags.foldl insert s

def ofList (tags : List String) : CapabilitySet := empty.insertAll tags

/-- One tag for each word of the text. -/
def ofText (text : String) : CapabilitySet :=
  ofList ((Text.words text.toList).map String.ofList)

/-- The minor versions known of each major version from one on. -/
def coreMinors : List (List Nat) := [[0, 1, 2], [0]]

/-- The same for the versions that extend the sharing of graphics objects. -/
def sharingMinors : List (List Nat) := [[0, 2], []]

/-- The tags of the versions up to `major.minor`, of those that are known. -/
def versionTags (suffix : String) (known : List (List Nat)) (major minor : UInt32) :
    List String :=
  ((known.zipIdx 1).take major.toNat).flatMap fun (minors, tier) =>
    (minors.takeWhile fun m => !(tier == major.toNat && minor.toNat < m)).map fun m =>
      s!"OpenCL{tier}{m}{suffix}"

/-- Adds the tags of every version up to `major.minor`, and those of the sharing versions if the
set advertises sharing. The extensions have to be in the set before. -/
def addVersions (s : CapabilitySet) (major minor : UInt32) : CapabilitySet :=
  let s := s.insertAll (versionTags "" coreMinors major minor)
  if sharingExtensions.any s.contains then
    s.insertAll (versionTags "GL" sharingMinors major minor)
  else s

/-- The full set of a platform: its extensions and the tags of its version. -/
def build (v : Version) (extensions : String) : CapabilitySet :=
  (ofText extensions).addVersions v.major v.minor

end CapabilitySet

end NativeBinding.OpenCL
