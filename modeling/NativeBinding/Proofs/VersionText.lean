import NativeBinding.Proofs.VersionGrammar

/-!
Printed versions and their readings: numbers are printed in digits that spell them, and a version
comes back from its own text exactly if trimming would leave its implementation as it is.
-/
namespace NativeBinding.OpenCL.Version

open Text (Stops Trims)

variable {v : Version} {cs : List Char} {i : String}

/-- The text of the implementation, if there is one, is not empty and has no white space at either
of its ends. -/
def IsNormal (v : Version) : Prop :=
  ∀ i ∈ v.implementation,
    i ≠ "" ∧ Stops Text.isBlank i.toList ∧ Stops Text.isBlank i.toList.reverse

theorem spells_toDigits (n : UInt32) : Spells (Nat.toDigits 10 n.toNat) n where
  ne_nil := Nat.toDigits_ne_nil
  isDigit _ := Nat.isDigit_of_mem_toDigits (by decide) (by decide)
  value := Nat.ofDigitChars_ten_toDigits

/-- What is printed behind the numbers. -/
def implementationText (v : Version) : List Char :=
  v.implementation.elim [] fun i => ' ' :: i.toList

/-- What is printed behind the second number. -/
def revisionText (v : Version) : List Char :=
  v.revision.elim v.implementationText fun r =>
    '.' :: (Nat.toDigits 10 r.toNat ++ v.implementationText)

theorem toList_text (v : Version) :
    v.text.toList = Nat.toDigits 10 v.major.toNat ++
      '.' :: (Nat.toDigits 10 v.minor.toNat ++ v.revisionText) := by
  cases hr : v.revision <;> cases hi : v.implementation <;>
    simp [text, revisionText, implementationText, hr, hi, toString, Nat.toList_repr]

/-- Neither a digit nor a dot comes where the implementation is printed: there is nothing, or the
blank in front of it. -/
theorem stops_implementationText (v : Version) : Stops Char.isDigit v.implementationText := by
  unfold implementationText
  cases v.implementation with
  | none => exact Text.stops_nil _
  | some i => exact Text.stops_cons.mpr rfl

theorem afterDot?_implementationText (v : Version) : afterDot? v.implementationText = none := by
  unfold implementationText
  cases v.implementation <;> rfl

theorem stops_revisionText (v : Version) : Stops Char.isDigit v.revisionText := by
  unfold revisionText
  cases v.revision with
  | none => exact v.stops_implementationText
  | some r => exact Text.stops_cons.mpr rfl

theorem begins_text (word : List Char) (v : Version) :
    Begins (word ++ v.text.toList) word v.major v.minor v.revisionText := by
  refine ⟨[], _, _, ?_, by simp, spells_toDigits _, spells_toDigits _, v.stops_revisionText⟩
  rw [toList_text, List.nil_append]

/-- Whatever the implementation is, it is not taken for a third number, nor a part of one. -/
theorem revision?_revisionText (v : Version) :
    revision? v.revisionText = (v.revision, v.implementationText) := by
  unfold revisionText
  cases hr : v.revision with
  | none =>
    rw [revision?, Option.elim_none, afterDot?_implementationText]
    rfl
  | some r =>
    have hgiven : ThirdNumber ('.' :: (Nat.toDigits 10 r.toNat ++ v.implementationText)) r
        v.implementationText := ⟨_, rfl, spells_toDigits r, v.stops_implementationText⟩
    exact revises_iff.mp (.given hgiven)

theorem implementation?_eq_some_iff :
    implementation? cs = some i ↔ i ≠ "" ∧ Trims cs i.toList := by
  rw [Text.trims_iff, implementation?]
  constructor
  · intro h
    split at h
    · cases h
    · rename_i hne
      obtain rfl := Option.some.inj h
      refine ⟨fun hempty => hne ?_, String.toList_ofList.symm⟩
      rw [← String.toList_ofList (l := Text.trim cs), hempty]
      rfl
  · rintro ⟨hne, htrim⟩
    have htext : i.toList ≠ [] := by simpa using hne
    rw [htrim, if_neg htext, String.ofList_toList]

/-- Behind a blank a text is kept as it is exactly if there is nothing to trim. -/
theorem trims_blank_cons :
    Trims (' ' :: cs) cs ↔ Stops Text.isBlank cs ∧ Stops Text.isBlank cs.reverse := by
  constructor
  · rintro ⟨-, -, -, -, -, hfront, hback⟩
    exact ⟨hfront, hback⟩
  · rintro ⟨hfront, hback⟩
    exact ⟨[' '], [], by simp, by simp [Text.isBlank], by simp, hfront, hback⟩

theorem implementation?_implementationText :
    implementation? v.implementationText = v.implementation ↔ v.IsNormal := by
  unfold implementationText IsNormal
  cases v.implementation with
  | none => simp [implementation?, Text.trim, Text.trimStart, Text.trimEnd]
  | some i =>
    rw [Option.elim_some, implementation?_eq_some_iff, trims_blank_cons]
    simp

/-- The text of a version is a sentence of the grammar behind every word. -/
theorem reports_text (word : List Char) (v : Version) :
    Reports (word ++ v.text.toList) word
      { v with implementation := implementation? v.implementationText } :=
  reports_iff.mpr ⟨v.revisionText, begins_text word v, by rw [revision?_revisionText],
    by rw [revision?_revisionText]⟩

theorem parse_text (word : String) (v : Version) :
    parse (word ++ v.text) word =
      .ok { v with implementation := implementation? v.implementationText } := by
  rw [parse_eq_ok_iff, String.toList_append]
  exact reports_text word.toList v

theorem parse_text_eq_ok_iff (word : String) (v : Version) :
    parse (word ++ v.text) word = .ok v ↔ v.IsNormal := by
  rw [parse_text, ← implementation?_implementationText]
  cases v
  simp

/-- What is read has been trimmed. -/
theorem isNormal_of_parse {text word : String} (h : parse text word = .ok v) : v.IsNormal := by
  obtain ⟨rest, -, -, himplementation⟩ := reports_iff.mp (parse_eq_ok_iff.mp h)
  intro i hi
  rw [Option.mem_def.mp hi] at himplementation
  obtain ⟨hne, -, -, -, -, -, hfront, hback⟩ := implementation?_eq_some_iff.mp himplementation
  exact ⟨hne, hfront, hback⟩

/-- Printing behind a word and reading are inverse on the normal versions, behind every word, and on
no other version. What is read off any text is normal, so it comes back whenever it is printed. -/
theorem parse_text_inverse :
    (∀ word v, parse (word ++ v.text) word = .ok v ↔ v.IsNormal) ∧
      ∀ text word v, parse text word = .ok v →
        v.IsNormal ∧ ∀ again, parse (again ++ v.text) again = .ok v := by
  refine ⟨parse_text_eq_ok_iff, ?_⟩
  intro text word v h
  have hnormal := isNormal_of_parse h
  exact ⟨hnormal, fun again => (parse_text_eq_ok_iff again v).mpr hnormal⟩

/-- A third number that does not fit, and a second dot, come back as the text that they are. -/
theorem parse_text_inverse_overlong :
    parse "CL 1.2.4294967296.7 " "CL" = .ok ⟨1, 2, none, some ".4294967296.7"⟩ ∧
      parse ("CL" ++ text ⟨1, 2, none, some ".4294967296.7"⟩) "CL" =
        .ok ⟨1, 2, none, some ".4294967296.7"⟩ :=
  have hread : parse "CL 1.2.4294967296.7 " "CL" = .ok ⟨1, 2, none, some ".4294967296.7"⟩ := by
    decide
  ⟨hread, (parse_text_inverse.2 _ _ _ hread).2 "CL"⟩

end NativeBinding.OpenCL.Version
