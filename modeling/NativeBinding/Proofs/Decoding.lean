import NativeBinding.Proofs.Encodings
import Mathlib.Data.List.TakeWhile

/-!
What the decoder makes of any bytes: an encoding of a character is read as that character, and where
none stands, what is broken is read as one replacement character. A text is read back from its
encoding.
-/
namespace NativeBinding.Text.Utf8

open String (utf8EncodeChar)

variable {c : Char} {b : UInt8} {n value more low high : Nat}
  {bytes taken part rest x : List UInt8} {cs cs' : List Char}

/-! Reading any bytes. -/

/-- `part` is as much of the bytes as is broken: no character stands at their front, and it is the
longest stretch there that begins one, or else a single byte. -/
structure IsBroken (part rest : List UInt8) : Prop where
  no_char : ∀ c, ¬ utf8EncodeChar c <+: part ++ rest
  begins_or_single : Begins part ∨ part.length = 1
  longest : ∀ longer, longer <+: part ++ rest → Begins longer → longer.length ≤ part.length

/-- The bytes are read as these characters: the encoding of a character as that character, and each
broken part as one replacement character. -/
inductive ReadsAs : List UInt8 → List Char → Prop
  | nil : ReadsAs [] []
  | char (c : Char) {rest : List UInt8} {cs : List Char} (h : ReadsAs rest cs) :
      ReadsAs (utf8EncodeChar c ++ rest) (c :: cs)
  | broken {part rest : List UInt8} {cs : List Char} (hpart : IsBroken part rest)
      (h : ReadsAs rest cs) : ReadsAs (part ++ rest) ('\uFFFD' :: cs)

theorem IsBroken.length_le {part' rest' : List UInt8} (h : IsBroken part rest)
    (h' : IsBroken part' rest') (heq : part ++ rest = part' ++ rest') :
    part.length ≤ part'.length := by
  rcases h.begins_or_single with hbegins | hsingle
  · exact h'.longest part (heq ▸ List.prefix_append part rest) hbegins
  · rcases h'.begins_or_single with ⟨hne, -⟩ | hsingle'
    · have := List.length_pos_iff.mpr hne
      omega
    · omega

/-- No character stands where bytes are broken. -/
theorem IsBroken.not_append (h : IsBroken part rest) : part ++ rest ≠ utf8EncodeChar c ++ x :=
  fun heq => h.no_char c (heq ▸ List.prefix_append _ x)

theorem IsBroken.ne_nil (h : IsBroken part rest) : part ≠ [] := by
  rcases h.begins_or_single with ⟨hne, -⟩ | hsingle
  · exact hne
  · exact List.ne_nil_of_length_eq_add_one hsingle

/-- Two broken parts at one place are the same. -/
theorem IsBroken.unique {part' rest' : List UInt8} (h : IsBroken part rest)
    (h' : IsBroken part' rest') (heq : part ++ rest = part' ++ rest') :
    part = part' ∧ rest = rest' :=
  List.append_inj heq (Nat.le_antisymm (h.length_le h' heq) (h'.length_le h heq.symm))

theorem readsAs_nil (h : ReadsAs [] cs) : cs = [] := by
  generalize hbytes : [] = bytes at h
  cases h with
  | nil => rfl
  | char c h => simp at hbytes
  | broken hpart h => exact absurd (List.append_eq_nil_iff.mp hbytes.symm).1 hpart.ne_nil

/-- Bytes are read in one way only. -/
theorem ReadsAs.unique (h : ReadsAs bytes cs) (h' : ReadsAs bytes cs') : cs = cs' := by
  induction h generalizing cs' with
  | nil => exact (readsAs_nil h').symm
  | @char c rest cs h ih =>
    generalize hbytes : utf8EncodeChar c ++ rest = bytes at h'
    cases h' with
    | nil => simp at hbytes
    | char d h' =>
      obtain rfl := eq_of_utf8EncodeChar_append hbytes
      rw [ih (List.append_cancel_left hbytes ▸ h')]
    | broken hpart h' => exact absurd hbytes.symm hpart.not_append
  | @broken part rest cs hpart h ih =>
    generalize hbytes : part ++ rest = bytes at h'
    cases h' with
    | nil => exact absurd (List.append_eq_nil_iff.mp hbytes).1 hpart.ne_nil
    | char d h' => exact absurd hbytes hpart.not_append
    | broken hpart' h' =>
      obtain ⟨-, rfl⟩ := hpart.unique hpart' hbytes
      rw [ih h']

/-! The decoder reads bytes in this way. -/

/-- The character that a piece is shown as. -/
def Piece.shown : Piece → Char
  | char c => c
  | broken _ => '\uFFFD'

theorem toList_decodeLossy (bytes : List UInt8) :
    (decodeLossy bytes).toList = (pieces .ready bytes).map Piece.shown := by
  rw [decodeLossy, String.toList_ofList]
  refine List.map_congr_left fun piece _ => ?_
  cases piece <;> rfl

/-- The bytes of the character that the decoder is reading. -/
def State.pending : State → List UInt8
  | ready => []
  | within taken .. => taken

/-- What the decoder expects next is what the character needs. -/
def State.Expects : State → Prop
  | ready => True
  | within taken value more low high => Tracks taken value more low.toNat high.toNat

/-- A character that is not gone on with is broken. -/
theorem isBroken_of_tracks (h : Tracks taken value more low high)
    (hrest : ∀ b ∈ rest.head?, ¬ (low ≤ b.toNat ∧ b.toNat ≤ high)) : IsBroken taken rest := by
  have hstops : ∀ {longer}, longer <+: taken ++ rest → taken.length < longer.length →
      ∃ b ∈ rest.head?, taken ++ [b] <+: longer := by
    intro longer hlonger hlength
    obtain ⟨more, rfl⟩ := List.prefix_of_prefix_length_le (List.prefix_append taken rest) hlonger
      (Nat.le_of_lt hlength)
    cases more with
    | nil => simp at hlength
    | cons b more =>
      obtain ⟨last, hlast⟩ := (List.prefix_append_right_inj taken).mp hlonger
      refine ⟨b, by simp [← hlast], ?_⟩
      exact ⟨more, by simp⟩
  have hbegins : ∀ b ∈ rest.head?, ∀ {longer}, taken ++ [b] <+: longer → ¬ Begins longer := by
    rintro b hb longer hlonger ⟨-, c, hc⟩
    exact hrest b hb (h.bounds_of_begins ⟨by simp, c, hlonger.trans hc⟩)
  constructor
  case no_char =>
    intro c hc
    rcases Nat.lt_or_ge taken.length (utf8EncodeChar c).length with hlength | hlength
    · obtain ⟨b, hb, hlonger⟩ := hstops hc hlength
      exact hbegins b hb hlonger ⟨String.utf8EncodeChar_ne_nil, c, List.prefix_refl _⟩
    · exact h.not_whole
        (List.prefix_of_prefix_length_le hc (List.prefix_append taken rest) hlength)
  case begins_or_single => exact .inl h.begins
  case longest =>
    intro longer hlonger hlongerBegins
    by_contra hlength
    obtain ⟨b, hb, hprefix⟩ := hstops hlonger (Nat.lt_of_not_le hlength)
    exact hbegins b hb hprefix hlongerBegins

theorem isBroken_single (h : ¬ Begins [b]) (rest : List UInt8) : IsBroken [b] rest := by
  have hbegins : ∀ {longer}, longer <+: [b] ++ rest → ¬ Begins longer := by
    rintro longer hlonger ⟨hne, c, hc⟩
    cases longer with
    | nil => exact hne rfl
    | cons b' longer =>
      obtain ⟨last, hlast⟩ := hlonger
      obtain ⟨rfl, -⟩ := List.cons.inj hlast
      exact h ⟨by simp, c, (List.prefix_append [b'] longer).trans hc⟩
  constructor
  case no_char =>
    intro c hc
    exact hbegins hc ⟨String.utf8EncodeChar_ne_nil, c, List.prefix_refl _⟩
  case begins_or_single => exact .inr rfl
  case longest => exact fun longer hlonger hlongerBegins => absurd hlongerBegins (hbegins hlonger)

/-- How the decoder reads the first byte of a character. -/
inductive Starts (b : UInt8) : List Piece × State → Prop
  | char (c : Char) (h : utf8EncodeChar c = [b]) : Starts b ([.char c], .ready)
  | broken (h : ¬ Begins [b]) : Starts b ([.broken [b]], .ready)
  | within {value more : Nat} {low high : UInt8}
      (h : Tracks [b] value more low.toNat high.toNat) :
      Starts b ([], .within [b] value more low high)

theorem not_begins_single (h : 0x80 ≤ b.toNat ∧ b.toNat < 0xC2 ∨ 0xF5 ≤ b.toNat) :
    ¬ Begins [b] := by
  rintro ⟨-, c, tail, hc⟩
  have hvalid := toNat_valid c
  cases utf8EncodeChar_eq_iff.mp hc.symm <;> omega

theorem toNat_ite (b k u v : UInt8) :
    b.toNat = k.toNat ∧ (if b = k then u else v).toNat = u.toNat ∨
      b.toNat ≠ k.toNat ∧ (if b = k then u else v).toNat = v.toNat := by
  by_cases h : b = k
  · exact .inl ⟨congrArg UInt8.toNat h, by rw [if_pos h]⟩
  · exact .inr ⟨mt UInt8.toNat_inj.mp h, by rw [if_neg h]⟩

theorem starts_start (b : UInt8) : Starts b (start b) := by
  unfold start
  simp only [UInt8.lt_iff_toNat_lt, UInt8.reduceToNat]
  split
  · rename_i hascii
    refine .char _ (utf8EncodeChar_eq_iff.mpr ?_)
    rw [toNat_ofNat_of_isValidChar (.inl (by omega))]
    exact .one rfl (by omega)
  split
  · exact .broken (not_begins_single (by omega))
  split
  · exact .within (tracks_two (by omega))
  split
  · exact .within
      (tracks_three (by omega) (toNat_ite b 0xE0 0xA0 0x80) (toNat_ite b 0xED 0x9F 0xBF))
  split
  · exact .within
      (tracks_four (by omega) (toNat_ite b 0xF0 0x90 0x80) (toNat_ite b 0xF4 0x8F 0xBF))
  · exact .broken (not_begins_single (by omega))

/-- The decoder reads what it has taken together with what follows. -/
theorem readsAs_pieces (bytes : List UInt8) (state : State) (hstate : state.Expects) :
    ReadsAs (state.pending ++ bytes) ((pieces state bytes).map Piece.shown) := by
  induction bytes generalizing state with
  | nil =>
    cases state with
    | ready => exact .nil
    | within taken value more low high => exact .broken (isBroken_of_tracks hstate nofun) .nil
  | cons b bytes ih =>
    have hready : ReadsAs (b :: bytes) ((pieces .ready (b :: bytes)).map Piece.shown) := by
      change ReadsAs _ (((start b).1 ++ pieces (start b).2 bytes).map Piece.shown)
      generalize hstart : start b = started
      cases hstart ▸ starts_start b with
      | char c h =>
        rw [← List.singleton_append, ← h]
        exact .char c (ih .ready trivial)
      | broken h => exact .broken (isBroken_single h bytes) (ih .ready trivial)
      | within h => exact ih (.within [b] _ _ _ _) h
    cases state with
    | ready => exact hready
    | within taken value more low high =>
      simp only [State.pending, pieces, step, UInt8.le_iff_toNat_le]
      by_cases hb : low.toNat ≤ b.toNat ∧ b.toNat ≤ high.toNat
      · rw [if_pos hb, List.append_cons]
        cases more with
        | zero =>
          rw [← Tracks.finish hstate hb]
          exact .char _ (ih .ready trivial)
        | succ more => exact ih (.within (taken ++ [b]) _ more 0x80 0xBF) (hstate.push hb)
      · rw [if_neg hb]
        exact .broken (isBroken_of_tracks hstate (by simpa using hb)) hready

theorem readsAs_decodeLossy (bytes : List UInt8) : ReadsAs bytes (decodeLossy bytes).toList := by
  rw [toList_decodeLossy]
  exact readsAs_pieces bytes .ready trivial

/-- The decoder reads bytes in the only way there is. -/
theorem decodeLossy_eq_iff {text : String} :
    decodeLossy bytes = text ↔ ReadsAs bytes text.toList := by
  constructor
  · rintro rfl
    exact readsAs_decodeLossy bytes
  · intro h
    exact String.toList_inj.mp ((readsAs_decodeLossy bytes).unique h)

/-- A text is read back from its encoding. -/
theorem decodeLossy_encode (text : String) : decodeLossy (encode text) = text := by
  rw [decodeLossy_eq_iff, encode]
  induction text.toList with
  | nil => exact .nil
  | cons c cs ih => exact .char c ih

/-! Native strings. -/

/-- Only the character NUL has a zero byte. -/
theorem zero_mem_utf8EncodeChar (h : 0 ∈ utf8EncodeChar c) : c = '\x00' := by
  have hzero : c.toNat = 0 := by
    generalize hbytes : utf8EncodeChar c = bytes at h
    cases utf8EncodeChar_eq_iff.mp hbytes <;>
      simp only [List.mem_cons, List.not_mem_nil, or_false, ← UInt8.toNat_inj,
        UInt8.reduceToNat] at h <;>
      omega
  exact Char.toNat_inj.mp hzero

theorem zero_notMem_encode {text : String} (h : '\x00' ∉ text.toList) : 0 ∉ encode text := by
  intro hmem
  obtain ⟨c, hc, hzero⟩ := List.mem_flatMap.mp hmem
  exact h (zero_mem_utf8EncodeChar hzero ▸ hc)

/-- Where no byte is zero no NUL is read. -/
theorem ReadsAs.nul_notMem (h : ReadsAs bytes cs) (hbytes : 0 ∉ bytes) : '\x00' ∉ cs := by
  induction h with
  | nil => exact List.not_mem_nil
  | char c h ih =>
    rw [List.mem_append, not_or] at hbytes
    rw [List.mem_cons, not_or]
    refine ⟨?_, ih hbytes.2⟩
    rintro rfl
    exact hbytes.1 (by decide)
  | broken hpart h ih =>
    rw [List.mem_append, not_or] at hbytes
    rw [List.mem_cons, not_or]
    exact ⟨by decide, ih hbytes.2⟩

theorem zero_notMem_untilNul (bytes : List UInt8) : 0 ∉ untilNul bytes := by
  intro h
  simpa using List.mem_takeWhile_imp h

/-- A native string is unaffected by what is cut off after its end. -/
theorem untilNul_take (h : (untilNul bytes).length ≤ n) :
    untilNul (bytes.take n) = untilNul bytes := by
  rw [untilNul, ← List.take_takeWhile]
  exact List.take_of_length_le h

/-- A native string ends at its terminator, or where nothing follows. -/
theorem untilNul_append (h : 0 ∉ bytes) (hrest : ∀ b ∈ rest.head?, b = 0) :
    untilNul (bytes ++ rest) = bytes := by
  have hrun : ∀ b ∈ bytes, decide (b ≠ 0) = true := by
    intro b hb
    exact decide_eq_true fun hzero => h (hzero ▸ hb)
  rw [untilNul, List.takeWhile_append_of_pos hrun]
  cases rest with
  | nil => simp
  | cons b rest => simp [hrest b rfl]

end NativeBinding.Text.Utf8
