import NativeBinding.Proofs.TagListings

/-!
Extension names read off a text. Names are told apart by white space alone, so a part of a name is
no name, and texts with white space between them have the names of both.
-/
namespace NativeBinding.OpenCL.CapabilitySet

variable {s t : CapabilitySet} {x text : String}

instance : Union CapabilitySet := ⟨fun s t => s.insertAll t.tags⟩

theorem contains_union : (s ∪ t).contains x = true ↔ s.contains x = true ∨ t.contains x = true := by
  have hunion : (s ∪ t).contains x = true ↔ x ∈ t.tags ∨ s.contains x = true := contains_insertAll
  rw [hunion, ← contains_iff, or_comm]

theorem contains_ofText_iff_isWord :
    (ofText text).contains x = true ↔ Text.IsWord x.toList text.toList := by
  rw [contains_ofText, Text.mem_words_iff]

/-- How the names in a text are told apart. -/
structure ReadsNames (text : String) : Prop where
  /-- A name is read where it stands between white space or the ends of the text. -/
  contains_iff : ∀ x, (ofText text).contains x = true ↔ Text.IsWord x.toList text.toList
  /-- A name brings itself and no part of it, wherever it stands. -/
  around : ∀ before name after : String, text = before ++ name ++ after → name ≠ "" →
    (∀ c ∈ name.toList, Text.isBlank c = false) →
    (∀ c ∈ before.toList.getLast?, Text.isBlank c = true) →
    (∀ c ∈ after.toList.head?, Text.isBlank c = true) →
    ∀ x, (ofText text).contains x = true ↔
      (ofText before).contains x = true ∨ x = name ∨ (ofText after).contains x = true
  /-- No name is lost or made up where texts are put together with white space between them. -/
  parted : ∀ gap rest : String, gap ≠ "" → Text.isAllBlank gap = true →
    ofText (text ++ gap ++ rest) = ofText text ∪ ofText rest
  /-- A name is counted once, however often it stands in the text. -/
  size_eq : (ofText text).size = {x : String | Text.IsWord x.toList text.toList}.ncard
  /-- So is one that stands in both of two texts that are put together. -/
  size_parted : ∀ gap rest : String, gap ≠ "" → Text.isAllBlank gap = true →
    (ofText (text ++ gap ++ rest)).size =
      {x : String | Text.IsWord x.toList text.toList ∨ Text.IsWord x.toList rest.toList}.ncard

theorem ofText_parted (text rest : String) {gap : String} (hne : gap ≠ "")
    (hgap : Text.isAllBlank gap = true) :
    ofText (text ++ gap ++ rest) = ofText text ∪ ofText rest := by
  have hsome : gap.toList ≠ [] := mt String.toList_eq_nil_iff.mp hne
  have hblank : ∀ c ∈ gap.toList, Text.isBlank c = true := List.all_eq_true.mp hgap
  apply eq_iff_contains.mpr
  intro x
  rw [Bool.eq_iff_iff, contains_union, contains_ofText, contains_ofText, contains_ofText,
    String.toList_append, String.toList_append, Text.words_append_gap hsome hblank,
    List.mem_append]

/-- In every text it is white space, and nothing else, that tells names apart. -/
theorem readsNames (text : String) : ReadsNames text := by
  constructor
  case contains_iff =>
    intro x
    exact contains_ofText_iff_isWord
  case around =>
    rintro before name after rfl hne hsolid hbefore hafter x
    have hsome : name.toList ≠ [] := mt String.toList_eq_nil_iff.mp hne
    rw [contains_ofText, contains_ofText, contains_ofText, String.toList_append,
      String.toList_append, Text.words_around hsome hsolid hbefore hafter, List.mem_append,
      List.mem_cons, String.toList_inj]
  case parted =>
    intro gap rest hne hgap
    exact ofText_parted text rest hne hgap
  case size_eq => exact size_eq_ncard fun x => contains_ofText_iff_isWord
  case size_parted =>
    intro gap rest hne hgap
    rw [ofText_parted text rest hne hgap]
    apply size_eq_ncard
    intro x
    rw [contains_union, contains_ofText_iff_isWord, contains_ofText_iff_isWord]

end NativeBinding.OpenCL.CapabilitySet
