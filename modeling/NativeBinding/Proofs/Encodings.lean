import NativeBinding.Text.Utf8
import Mathlib.Data.List.Basic

/-!
Encodings of characters, byte by byte: what a character may begin with, and which bytes can go on
from there. No encoding is the beginning of another.
-/
namespace NativeBinding.Text.Utf8

open String (utf8EncodeChar)

variable {c d : Char} {b : UInt8} {n m value more low high : Nat}
  {bytes taken tail x y : List UInt8}

theorem toNat_valid (c : Char) :
    c.toNat < 0xD800 ∨ 0xDFFF < c.toNat ∧ c.toNat < 0x110000 := c.valid

/-- The bytes that encode a code point, by their numbers. -/
inductive Encodes (n : Nat) : List UInt8 → Prop
  | one {b : UInt8} (h : b.toNat = n) (hsize : n ≤ 0x7F) : Encodes n [b]
  | two {b b₁ : UInt8} (h : b.toNat = n / 64 + 0xC0) (h₁ : b₁.toNat = n % 64 + 0x80)
      (hsize : 0x80 ≤ n ∧ n ≤ 0x7FF) : Encodes n [b, b₁]
  | three {b b₁ b₂ : UInt8} (h : b.toNat = n / 4096 + 0xE0) (h₁ : b₁.toNat = n / 64 % 64 + 0x80)
      (h₂ : b₂.toNat = n % 64 + 0x80) (hsize : 0x800 ≤ n ∧ n ≤ 0xFFFF) : Encodes n [b, b₁, b₂]
  | four {b b₁ b₂ b₃ : UInt8} (h : b.toNat = n / 262144 + 0xF0)
      (h₁ : b₁.toNat = n / 4096 % 64 + 0x80) (h₂ : b₂.toNat = n / 64 % 64 + 0x80)
      (h₃ : b₃.toNat = n % 64 + 0x80) (hsize : 0x10000 ≤ n) : Encodes n [b, b₁, b₂, b₃]

theorem Encodes.unique {bytes' : List UInt8} (h : Encodes n bytes) (h' : Encodes n bytes') :
    bytes = bytes' := by
  -- Only one size takes in the code point, so that no two forms meet.
  cases h <;> cases h' <;>
    first
      | omega
      | (simp only [List.cons.injEq, and_true, ← UInt8.toNat_inj]; omega)

/-- No encoding is the beginning of another. -/
theorem Encodes.eq_of_append {bytes' : List UInt8} (h : Encodes n bytes) (h' : Encodes m bytes')
    (heq : bytes ++ x = bytes' ++ y) : n = m := by
  -- The first byte tells the forms apart, and within a form the bytes give the code point.
  cases h <;> cases h' <;>
    simp only [List.cons_append, List.cons.injEq, ← UInt8.toNat_inj] at heq <;> omega

theorem toNat_ofNat_eq (h : n = m) (hbound : m < 256) : (UInt8.ofNat n).toNat = m := by
  subst h
  exact UInt8.toNat_ofNat_of_lt' hbound

theorem encodes_utf8EncodeChar (c : Char) : Encodes c.toNat (utf8EncodeChar c) := by
  have hvalid := toNat_valid c
  rw [utf8EncodeChar.eq_1]
  simp only [Char.toNat_val]
  split
  · exact .one (toNat_ofNat_eq rfl (by omega)) (by omega)
  split
  · exact .two (toNat_ofNat_eq (by omega) (by omega)) (toNat_ofNat_eq rfl (by omega)) (by omega)
  split
  · exact .three (toNat_ofNat_eq (by omega) (by omega)) (toNat_ofNat_eq rfl (by omega))
      (toNat_ofNat_eq rfl (by omega)) (by omega)
  · exact .four (toNat_ofNat_eq (by omega) (by omega)) (toNat_ofNat_eq rfl (by omega))
      (toNat_ofNat_eq rfl (by omega)) (toNat_ofNat_eq rfl (by omega)) (by omega)

theorem utf8EncodeChar_eq_iff : utf8EncodeChar c = bytes ↔ Encodes c.toNat bytes :=
  ⟨fun h => h ▸ encodes_utf8EncodeChar c, (encodes_utf8EncodeChar c).unique⟩

theorem eq_of_utf8EncodeChar_append (heq : utf8EncodeChar c ++ x = utf8EncodeChar d ++ y) :
    c = d :=
  Char.toNat_inj.mp ((encodes_utf8EncodeChar c).eq_of_append (encodes_utf8EncodeChar d) heq)

/-! What may follow the bytes of a character that are there already. -/

/-- As many more bytes as a character still needs, the first of them between two bounds. -/
inductive Fits : Nat → Nat → Nat → List UInt8 → Prop
  | last {low high : Nat} {b : UInt8} (hbounds : low ≤ b.toNat ∧ b.toNat ≤ high) :
      Fits 0 low high [b]
  | more {more low high : Nat} {b : UInt8} {tail : List UInt8}
      (hbounds : low ≤ b.toNat ∧ b.toNat ≤ high) (h : Fits more 0x80 0xBF tail) :
      Fits (more + 1) low high (b :: tail)

/-- What a value becomes with the bits of more bytes. -/
def carried (value : Nat) (tail : List UInt8) : Nat :=
  tail.foldl (fun value b => value * 64 + (b.toNat - 0x80)) value

theorem carried_cons (value : Nat) (b : UInt8) (tail : List UInt8) :
    carried value (b :: tail) = carried (value * 64 + (b.toNat - 0x80)) tail := by
  simp only [carried, List.foldl_cons]

/-- The bytes begin a character, and exactly what fits makes it whole: it is the character of the
value that is carried to the end. -/
structure Tracks (taken : List UInt8) (value more low high : Nat) : Prop where
  ne_nil : taken ≠ []
  bounds : low ≤ high ∧ high < 256
  whole : ∀ tail c, utf8EncodeChar c = taken ++ tail ↔
    Fits more low high tail ∧ c.toNat = carried value tail
  valid : ∀ tail, Fits more low high tail → (carried value tail).isValidChar

theorem tracks_two (hb : 0xC2 ≤ b.toNat ∧ b.toNat < 0xE0) :
    Tracks [b] (b.toNat - 0xC0) 0 0x80 0xBF where
  ne_nil := List.cons_ne_nil _ _
  bounds := by decide
  whole := by
    intro tail c
    rw [utf8EncodeChar_eq_iff, List.singleton_append]
    constructor
    · intro hencodes
      cases hencodes with
      | two h h₁ hsize =>
        refine ⟨.last (by omega), ?_⟩
        simp only [carried, List.foldl_cons, List.foldl_nil]
        omega
      | _ => omega
    · rintro ⟨⟨hbounds⟩, hc⟩
      simp only [carried, List.foldl_cons, List.foldl_nil] at hc
      exact .two (by omega) (by omega) (by omega)
  valid := by
    rintro tail ⟨hbounds⟩
    simp only [carried, List.foldl_cons, List.foldl_nil]
    left
    omega

theorem tracks_three (hb : 0xE0 ≤ b.toNat ∧ b.toNat < 0xF0)
    (hlow : b.toNat = 0xE0 ∧ low = 0xA0 ∨ b.toNat ≠ 0xE0 ∧ low = 0x80)
    (hhigh : b.toNat = 0xED ∧ high = 0x9F ∨ b.toNat ≠ 0xED ∧ high = 0xBF) :
    Tracks [b] (b.toNat - 0xE0) 1 low high where
  ne_nil := List.cons_ne_nil _ _
  bounds := by omega
  whole := by
    intro tail c
    have hvalid := toNat_valid c
    rw [utf8EncodeChar_eq_iff, List.singleton_append]
    constructor
    · intro hencodes
      cases hencodes with
      | three h h₁ h₂ hsize =>
        refine ⟨.more (by omega) (.last (by omega)), ?_⟩
        simp only [carried, List.foldl_cons, List.foldl_nil]
        omega
      | _ => omega
    · rintro ⟨⟨⟩ | ⟨hbounds, ⟨hbounds₁⟩⟩, hc⟩
      simp only [carried, List.foldl_cons, List.foldl_nil] at hc
      exact .three (by omega) (by omega) (by omega) (by omega)
  valid := by
    rintro tail (⟨⟩ | ⟨hbounds, ⟨hbounds₁⟩⟩)
    simp only [carried, List.foldl_cons, List.foldl_nil, Nat.isValidChar]
    omega

theorem tracks_four (hb : 0xF0 ≤ b.toNat ∧ b.toNat < 0xF5)
    (hlow : b.toNat = 0xF0 ∧ low = 0x90 ∨ b.toNat ≠ 0xF0 ∧ low = 0x80)
    (hhigh : b.toNat = 0xF4 ∧ high = 0x8F ∨ b.toNat ≠ 0xF4 ∧ high = 0xBF) :
    Tracks [b] (b.toNat - 0xF0) 2 low high where
  ne_nil := List.cons_ne_nil _ _
  bounds := by omega
  whole := by
    intro tail c
    have hvalid := toNat_valid c
    rw [utf8EncodeChar_eq_iff, List.singleton_append]
    constructor
    · intro hencodes
      cases hencodes with
      | four h h₁ h₂ h₃ hsize =>
        refine ⟨.more (by omega) (.more (by omega) (.last (by omega))), ?_⟩
        simp only [carried, List.foldl_cons, List.foldl_nil]
        omega
      | _ => omega
    · rintro ⟨⟨⟩ | ⟨hbounds, ⟨⟩ | ⟨hbounds₁, ⟨hbounds₂⟩⟩⟩, hc⟩
      simp only [carried, List.foldl_cons, List.foldl_nil] at hc
      exact .four (by omega) (by omega) (by omega) (by omega) (by omega)
  valid := by
    rintro tail (⟨⟩ | ⟨hbounds, ⟨⟩ | ⟨hbounds₁, ⟨hbounds₂⟩⟩⟩)
    simp only [carried, List.foldl_cons, List.foldl_nil, Nat.isValidChar]
    omega

/-- A character begins with the bytes. -/
def Begins (bytes : List UInt8) : Prop := bytes ≠ [] ∧ ∃ c, bytes <+: utf8EncodeChar c

theorem exists_fits (more : Nat) (h : low ≤ high ∧ high < 256) :
    ∃ tail, Fits more low high tail := by
  have hbyte : ∀ {low high : Nat}, low ≤ high ∧ high < 256 →
      ∃ b : UInt8, low ≤ b.toNat ∧ b.toNat ≤ high := by
    intro low high h
    refine ⟨UInt8.ofNat low, ?_⟩
    rw [toNat_ofNat_eq rfl (by omega)]
    exact ⟨Nat.le_refl _, h.1⟩
  induction more generalizing low high with
  | zero =>
    obtain ⟨b, hb⟩ := hbyte h
    exact ⟨[b], .last hb⟩
  | succ more ih =>
    obtain ⟨b, hb⟩ := hbyte h
    obtain ⟨tail, htail⟩ := @ih 0x80 0xBF (by decide)
    exact ⟨b :: tail, .more hb htail⟩

theorem toNat_ofNat_of_isValidChar (h : n.isValidChar) : (Char.ofNat n).toNat = n := by
  rw [Char.ofNat, dif_pos h]
  rfl

namespace Tracks

theorem push (h : Tracks taken value (more + 1) low high)
    (hb : low ≤ b.toNat ∧ b.toNat ≤ high) :
    Tracks (taken ++ [b]) (value * 64 + (b.toNat - 0x80)) more 0x80 0xBF where
  ne_nil := by simp
  bounds := by decide
  whole := by
    intro tail c
    rw [List.append_assoc, List.singleton_append, h.whole, carried_cons]
    refine and_congr_left fun _ => ⟨?_, .more hb⟩
    rintro (_ | ⟨_, hfits⟩)
    exact hfits
  valid := by
    intro tail hfits
    rw [← carried_cons]
    exact h.valid (b :: tail) (.more hb hfits)

/-- The last byte makes the character whole. -/
theorem finish (h : Tracks taken value 0 low high) (hb : low ≤ b.toNat ∧ b.toNat ≤ high) :
    utf8EncodeChar (Char.ofNat (value * 64 + (b.toNat - 0x80))) = taken ++ [b] := by
  refine (h.whole [b] _).mpr ⟨.last hb, ?_⟩
  exact toNat_ofNat_of_isValidChar (h.valid [b] (.last hb))

theorem exists_char (h : Tracks taken value more low high) (htail : Fits more low high tail) :
    ∃ c, utf8EncodeChar c = taken ++ tail :=
  ⟨Char.ofNat (carried value tail), (h.whole tail _).mpr
    ⟨htail, toNat_ofNat_of_isValidChar (h.valid tail htail)⟩⟩

theorem begins (h : Tracks taken value more low high) : Begins taken := by
  obtain ⟨tail, htail⟩ := exists_fits more h.bounds
  obtain ⟨c, hc⟩ := h.exists_char htail
  exact ⟨h.ne_nil, c, hc ▸ List.prefix_append taken tail⟩

/-- What a character needs next lies between the bounds. -/
theorem bounds_of_begins (h : Tracks taken value more low high) (hb : Begins (taken ++ [b])) :
    low ≤ b.toNat ∧ b.toNat ≤ high := by
  obtain ⟨-, c, rest, hc⟩ := hb
  rw [List.append_assoc, List.singleton_append] at hc
  cases ((h.whole (b :: rest) c).mp hc.symm).1 with
  | last hbounds => exact hbounds
  | more hbounds _ => exact hbounds

/-- No character is whole yet. -/
theorem not_whole (h : Tracks taken value more low high) : ¬ utf8EncodeChar c <+: taken := by
  rintro ⟨x, hx⟩
  obtain ⟨tail, htail⟩ := exists_fits more h.bounds
  obtain ⟨d, hd⟩ := h.exists_char htail
  obtain rfl : c = d := by
    refine eq_of_utf8EncodeChar_append (x := x ++ tail) (y := []) ?_
    rw [List.append_nil, hd, ← hx, List.append_assoc]
  have hlength := congrArg List.length hd
  have hlength' := congrArg List.length hx
  have hpos : tail.length ≠ 0 := by cases htail <;> simp
  simp only [List.length_append] at hlength hlength'
  omega

end Tracks

end NativeBinding.Text.Utf8
