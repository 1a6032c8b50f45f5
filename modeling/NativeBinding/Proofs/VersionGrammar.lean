import NativeBinding.OpenCL.Version
import NativeBinding.Proofs.CharRuns
import Mathlib.Data.List.Basic

/-!
The grammar of reported versions: a word, white space, two numbers with a dot between them, a third
number if a dot and its digits follow, and text. Its sentences are told by how they are put
together, and reading finds the parts again.
-/
namespace NativeBinding.OpenCL.Version

open Text (Stops Trims)

variable {cs digits rest word text : List Char} {major minor n : UInt32}
  {revision : Option UInt32}

/-- A run of decimal digits, leading zeros included, that writes a number. -/
structure Spells (digits : List Char) (n : UInt32) : Prop where
  ne_nil : digits ≠ []
  isDigit : ∀ c ∈ digits, c.isDigit = true
  value : Nat.ofDigitChars 10 digits 0 = n.toNat

/-- What a text of the grammar starts with, up to the end of its second number. -/
def Begins (text word : List Char) (major minor : UInt32) (rest : List Char) : Prop :=
  ∃ blank first second,
    text = word ++ (blank ++ (first ++ '.' :: (second ++ rest))) ∧
      (∀ c ∈ blank, Text.isBlank c = true) ∧ Spells first major ∧ Spells second minor ∧
      Stops Char.isDigit rest

/-- What stands behind two numbers starts with a third one. -/
def ThirdNumber (cs : List Char) (n : UInt32) (rest : List Char) : Prop :=
  ∃ digits, cs = '.' :: (digits ++ rest) ∧ Spells digits n ∧ Stops Char.isDigit rest

/-- The third number behind two others, and the text behind the numbers. A dot without a number
that fits belongs to the text. -/
inductive Revises (cs : List Char) : Option UInt32 → List Char → Prop
  | given {n : UInt32} {rest : List Char} (h : ThirdNumber cs n rest) : Revises cs (some n) rest
  | absent (h : ∀ n rest, ¬ ThirdNumber cs n rest) : Revises cs none cs

/-- A text of the grammar reports a version behind a word. -/
def Reports (text word : List Char) (v : Version) : Prop :=
  ∃ rest after core, Begins text word v.major v.minor rest ∧ Revises rest v.revision after ∧
    Trims after core ∧
    v.implementation = if core = [] then none else some (String.ofList core)

theorem decimal_eq_ofDigitChars (digits : List Char) :
    decimal digits = Nat.ofDigitChars 10 digits 0 := by
  unfold decimal
  rw [Nat.ofDigitChars_eq_foldl]
  congr 1
  funext n d
  rw [Nat.mul_comm]

theorem Spells.decimal_eq (h : Spells digits n) : decimal digits = n.toNat := by
  rw [decimal_eq_ofDigitChars, h.value]

theorem Spells.stops_isBlank (h : Spells digits n) (rest : List Char) :
    Stops Text.isBlank (digits ++ rest) := by
  cases digits with
  | nil => exact absurd rfl h.ne_nil
  | cons d digits =>
    have hd := h.isDigit d List.mem_cons_self
    apply Text.stops_cons.mpr
    simp only [Char.isDigit, Bool.and_eq_true, decide_eq_true_eq, ge_iff_le] at hd
    have hlow : 48 ≤ d.toNat := UInt32.le_iff_toNat_le.mp hd.1
    have hhigh : d.toNat ≤ 57 := UInt32.le_iff_toNat_le.mp hd.2
    simp only [Text.isBlank]
    grind

/-- The digits that a text starts with are read to their end, and as the number they spell. -/
theorem leadingNumber?_eq_some_iff :
    leadingNumber? cs = some (n, rest) ↔
      ∃ digits, cs = digits ++ rest ∧ Spells digits n ∧ Stops Char.isDigit rest := by
  constructor
  · intro h
    simp only [leadingNumber?] at h
    split at h
    · cases h
    · rename_i hne
      split at h
      · rename_i hfits
        obtain ⟨rfl, rfl⟩ : UInt32.ofNat (decimal (cs.takeWhile Char.isDigit)) = n ∧
            cs.dropWhile Char.isDigit = rest := by simpa using h
        refine ⟨_, List.takeWhile_append_dropWhile.symm, ⟨hne, ?_, ?_⟩, Text.stops_dropWhile _ _⟩
        · exact fun _ => List.mem_takeWhile_imp
        · rw [← decimal_eq_ofDigitChars, UInt32.toNat_ofNat_of_lt' hfits]
      · cases h
  · rintro ⟨digits, rfl, hspells, hstops⟩
    have htake := Text.takeWhile_run hspells.isDigit hstops
    have hdrop := Text.dropWhile_run hspells.isDigit hstops
    simp only [leadingNumber?, htake, hdrop, hspells.ne_nil, if_false, hspells.decimal_eq,
      n.toNat_lt_size, if_true, UInt32.ofNat_toNat]

theorem afterDot?_eq_some_iff : afterDot? cs = some rest ↔ cs = '.' :: rest := by
  unfold afterDot?
  split <;> simp_all

/-- What a text starts with is found by three cuts, each of which can fail. -/
theorem begins_iff :
    Begins text word major minor rest ↔ ∃ opened behind dotted,
      word.isPrefixOf? text = some opened ∧
        leadingNumber? (Text.trimStart opened) = some (major, behind) ∧
        afterDot? behind = some dotted ∧ leadingNumber? dotted = some (minor, rest) := by
  constructor
  · rintro ⟨blank, first, second, rfl, hblank, hfirst, hsecond, hstops⟩
    refine ⟨_, _, _, List.isPrefixOf?_eq_some_iff_append_eq.mpr rfl, ?_,
      afterDot?_eq_some_iff.mpr rfl, leadingNumber?_eq_some_iff.mpr ⟨second, rfl, hsecond, hstops⟩⟩
    rw [Text.trimStart_run hblank (hfirst.stops_isBlank _)]
    exact leadingNumber?_eq_some_iff.mpr ⟨first, rfl, hfirst, Text.stops_cons.mpr rfl⟩
  · rintro ⟨opened, behind, dotted, hopened, hfirst, hdot, hsecond⟩
    obtain ⟨blank, hblank, hcut⟩ := Text.exists_blank_trimStart opened
    obtain ⟨first, hopening, hmajor, -⟩ := leadingNumber?_eq_some_iff.mp hfirst
    obtain ⟨second, hdotted, hminor, hstops⟩ := leadingNumber?_eq_some_iff.mp hsecond
    refine ⟨blank, first, second, ?_, hblank, hmajor, hminor, hstops⟩
    rw [← List.isPrefixOf?_eq_some_iff_append_eq.mp hopened, ← hdotted,
      ← afterDot?_eq_some_iff.mp hdot, ← hopening, ← hcut]

theorem thirdNumber_iff :
    ThirdNumber cs n rest ↔ afterDot? cs >>= leadingNumber? = some (n, rest) := by
  constructor
  · rintro ⟨digits, rfl, hspells, hstops⟩
    exact leadingNumber?_eq_some_iff.mpr ⟨digits, rfl, hspells, hstops⟩
  · intro h
    obtain ⟨dotted, hdot, hnumber⟩ := Option.bind_eq_some_iff.mp h
    obtain ⟨digits, rfl, hspells, hstops⟩ := leadingNumber?_eq_some_iff.mp hnumber
    exact ⟨digits, afterDot?_eq_some_iff.mp hdot, hspells, hstops⟩

/-- The third number and the text behind it, as they are read. -/
def revision? (cs : List Char) : Option UInt32 × List Char :=
  match afterDot? cs >>= leadingNumber? with
  | some (n, rest) => (some n, rest)
  | none => (none, cs)

theorem revises_iff : Revises cs revision rest ↔ revision? cs = (revision, rest) := by
  unfold revision?
  cases hread : afterDot? cs >>= leadingNumber? with
  | none =>
    have hnone : ∀ n rest, ¬ ThirdNumber cs n rest := by
      intro n rest h
      rw [thirdNumber_iff.mp h] at hread
      cases hread
    constructor
    · rintro (h | -)
      · exact absurd h (hnone _ _)
      · rfl
    · rintro ⟨⟩
      exact .absent hnone
  | some read =>
    have hgiven : ThirdNumber cs read.1 read.2 := thirdNumber_iff.mpr hread
    constructor
    · rintro (h | h)
      · rw [thirdNumber_iff.mp h] at hread
        cases hread
        rfl
      · exact absurd hgiven (h _ _)
    · rintro ⟨⟩
      exact .given hgiven

/-- What follows the numbers, as a version gives it. -/
def implementation? (cs : List Char) : Option String :=
  if Text.trim cs = [] then none else some (String.ofList (Text.trim cs))

theorem reports_iff {v : Version} :
    Reports text word v ↔ ∃ rest, Begins text word v.major v.minor rest ∧
      (revision? rest).1 = v.revision ∧ implementation? (revision? rest).2 = v.implementation := by
  constructor
  · rintro ⟨rest, after, core, hbegins, hrevises, htrims, himplementation⟩
    obtain rfl := Text.trims_iff.mp htrims
    refine ⟨rest, hbegins, ?_, ?_⟩
    · rw [revises_iff.mp hrevises]
    · rw [revises_iff.mp hrevises, himplementation, implementation?]
  · rintro ⟨rest, hbegins, hrevision, himplementation⟩
    exact ⟨rest, (revision? rest).2, _, hbegins, revises_iff.mpr (by rw [← hrevision]),
      Text.trims_trim _, himplementation.symm⟩

/-- Reading is three cuts that can fail, and a rest that is taken as it comes. -/
theorem read?_eq (word text : List Char) :
    read? word text = (word.isPrefixOf? text).bind fun opened =>
      (leadingNumber? (Text.trimStart opened)).bind fun first =>
        (afterDot? first.2).bind fun dotted => (leadingNumber? dotted).map fun second =>
          { major := first.1, minor := second.1, revision := (revision? second.2).1
            implementation := implementation? (revision? second.2).2 } := by
  simp only [read?, Option.map_eq_bind]
  rfl

/-- Reading accepts the sentences of the grammar, and finds their parts. -/
theorem read?_eq_some_iff {v : Version} : read? word text = some v ↔ Reports text word v := by
  rw [read?_eq, reports_iff]
  simp only [begins_iff, Option.bind_eq_some_iff, Option.map_eq_some_iff]
  constructor
  · rintro ⟨opened, hopened, ⟨major, behind⟩, hfirst, dotted, hdot, ⟨minor, rest⟩, hsecond, rfl⟩
    exact ⟨rest, ⟨opened, behind, dotted, hopened, hfirst, hdot, hsecond⟩, rfl, rfl⟩
  · rintro ⟨rest, ⟨opened, behind, dotted, hopened, hfirst, hdot, hsecond⟩, hrevision, himpl⟩
    refine ⟨opened, hopened, _, hfirst, dotted, hdot, _, hsecond, ?_⟩
    rw [hrevision, himpl]

theorem parse_eq_ok_iff {text word : String} {v : Version} :
    parse text word = .ok v ↔ Reports text.toList word.toList v := by
  rw [← read?_eq_some_iff, parse]
  cases read? word.toList text.toList with
  | none => simp
  | some read => simp

/-- A text that starts as the grammar asks reports some version: nothing behind the second number
is refused. -/
theorem exists_reports_iff :
    (∃ v, Reports text word v) ↔ ∃ major minor rest, Begins text word major minor rest := by
  constructor
  · rintro ⟨v, rest, _, _, hbegins, -⟩
    exact ⟨v.major, v.minor, rest, hbegins⟩
  · rintro ⟨major, minor, rest, hbegins⟩
    exact ⟨⟨major, minor, (revision? rest).1, implementation? (revision? rest).2⟩,
      reports_iff.mpr ⟨rest, hbegins, rfl, rfl⟩⟩

theorem parse_eq_error_iff {text word : String} {failure : Failure} :
    parse text word = .error failure ↔
      failure = .versionParse text ∧ ¬ ∃ v, Reports text.toList word.toList v := by
  simp only [← read?_eq_some_iff]
  rw [parse]
  cases read? word.toList text.toList with
  | none => simp [eq_comm]
  | some read => simp

/-- A version is read off a text exactly if the text is a sentence of the grammar behind the word,
and it is the one that the sentence reports. Every text that starts with the word, white space and
two numbers that fit is a sentence, of one version alone; any other text is handed back with the
failure. -/
theorem parse_accepts_grammar (text word : String) :
    (∀ v, parse text word = .ok v ↔ Reports text.toList word.toList v) ∧
      ((∃ v, parse text word = .ok v) ↔
        ∃ major minor rest, Begins text.toList word.toList major minor rest) ∧
      (∀ v v', Reports text.toList word.toList v → Reports text.toList word.toList v' → v = v') ∧
      ∀ failure, parse text word = .error failure ↔ failure = .versionParse text ∧
        ¬ ∃ major minor rest, Begins text.toList word.toList major minor rest := by
  refine ⟨fun v => parse_eq_ok_iff, ?_, ?_, ?_⟩
  · simp only [parse_eq_ok_iff]
    exact exists_reports_iff
  · intro v v' h h'
    have hread := read?_eq_some_iff.mpr h
    rw [read?_eq_some_iff.mpr h'] at hread
    exact (Option.some.inj hread).symm
  · intro failure
    rw [parse_eq_error_iff, exists_reports_iff]

example : parse "OpenCL 01.02. x" "OpenCL" = .ok ⟨1, 2, none, some ". x"⟩ := by decide

end NativeBinding.OpenCL.Version
