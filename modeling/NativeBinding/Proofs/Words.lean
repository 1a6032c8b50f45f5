import NativeBinding.Text.Blank

/-! Words of a text: where a word stands, and what cutting at white space does to words. -/
namespace NativeBinding.Text

variable {word gap cs cs' : List Char} {c : Char}

/-- The word stands in the text between two boundaries, each white space or an end of the text, and
no white space is in it. -/
def IsWord (word text : List Char) : Prop :=
  word ≠ [] ∧ (∀ c ∈ word, isBlank c = false) ∧
    ∃ before after, text = before ++ word ++ after ∧
      (∀ c ∈ before.getLast?, isBlank c = true) ∧ ∀ c ∈ after.head?, isBlank c = true

/-- White space is in no word, so a text has the words of both its sides. -/
theorem words_append_cons (hc : isBlank c = true) (cs cs' : List Char) :
    words (cs ++ c :: cs') = words cs ++ words cs' := by
  unfold words
  rw [List.splitOnP_append_cons cs cs' hc, List.filter_append]

/-- White space in front brings no word. -/
theorem words_blank_append (hgap : ∀ c ∈ gap, isBlank c = true) (cs : List Char) :
    words (gap ++ cs) = words cs := by
  induction gap with
  | nil => rfl
  | cons c gap ih =>
    obtain ⟨hc, hgap⟩ := List.forall_mem_cons.mp hgap
    exact (words_append_cons hc [] (gap ++ cs)).trans (ih hgap)

/-- Any amount of white space parts a text in two, like a single character of it. -/
theorem words_append_gap (hne : gap ≠ []) (hgap : ∀ c ∈ gap, isBlank c = true)
    (cs cs' : List Char) : words (cs ++ gap ++ cs') = words cs ++ words cs' := by
  cases gap with
  | nil => exact absurd rfl hne
  | cons c gap =>
    obtain ⟨hc, hgap⟩ := List.forall_mem_cons.mp hgap
    rw [List.append_assoc, List.cons_append, words_append_cons hc, words_blank_append hgap]

theorem words_eq_singleton (hne : word ≠ []) (hsolid : ∀ c ∈ word, isBlank c = false) :
    words word = [word] := by
  unfold words
  rw [List.splitOnP_eq_singleton hsolid]
  simp [hne]

/-- A text without white space has no other word than itself. -/
theorem mem_words_of_solid (hsolid : ∀ c ∈ cs, isBlank c = false) :
    word ∈ words cs ↔ word ≠ [] ∧ word = cs := by
  by_cases hne : cs = []
  · subst hne
    have hnone : words [] = [] := rfl
    rw [hnone]
    simp
  · rw [words_eq_singleton hne hsolid, List.mem_singleton]
    constructor
    · rintro rfl
      exact ⟨hne, rfl⟩
    · rintro ⟨-, rfl⟩
      rfl

/-- A text is free of white space, or it can be cut at the first white space in it. -/
theorem solid_or_cut (cs : List Char) :
    (∀ c ∈ cs, isBlank c = false) ∨ ∃ front c back, cs = front ++ c :: back ∧
      isBlank c = true ∧ ∀ c ∈ front, isBlank c = false := by
  induction cs with
  | nil => exact .inl (by simp)
  | cons c cs ih =>
    by_cases hc : isBlank c = true
    · exact .inr ⟨[], c, cs, rfl, hc, by simp⟩
    · have hc : isBlank c = false := Bool.eq_false_iff.mpr hc
      rcases ih with hsolid | ⟨front, b, back, rfl, hb, hfront⟩
      · exact .inl (List.forall_mem_cons.mpr ⟨hc, hsolid⟩)
      · exact .inr ⟨c :: front, b, back, rfl, hb, List.forall_mem_cons.mpr ⟨hc, hfront⟩⟩

theorem isWord_of_mem_words {text : List Char} (h : word ∈ words text) : IsWord word text := by
  rcases solid_or_cut text with hsolid | ⟨front, c, back, rfl, hc, hfront⟩
  · obtain ⟨hne, rfl⟩ := (mem_words_of_solid hsolid).mp h
    exact ⟨hne, hsolid, [], [], by simp, by simp, by simp⟩
  · rw [words_append_cons hc, List.mem_append] at h
    rcases h with h | h
    · obtain ⟨hne, rfl⟩ := (mem_words_of_solid hfront).mp h
      exact ⟨hne, hfront, [], c :: back, rfl, by simp, by simpa using hc⟩
    · obtain ⟨hne, hsolid, before, after, rfl, hbefore, hafter⟩ := isWord_of_mem_words h
      refine ⟨hne, hsolid, front ++ c :: before, after, by simp, ?_, hafter⟩
      intro b hb
      cases before with
      | cons first before => exact hbefore b (by simpa using hb)
      | nil =>
        obtain rfl : c = b := by simpa using hb
        exact hc
termination_by text.length

/-- A word between two boundaries comes after the words before it and before those after it. -/
theorem words_around {before after : List Char} (hne : word ≠ [])
    (hsolid : ∀ c ∈ word, isBlank c = false) (hbefore : ∀ c ∈ before.getLast?, isBlank c = true)
    (hafter : ∀ c ∈ after.head?, isBlank c = true) :
    words (before ++ word ++ after) = words before ++ word :: words after := by
  have hback : words (word ++ after) = word :: words after := by
    cases after with
    | nil =>
      rw [List.append_nil, words_eq_singleton hne hsolid]
      rfl
    | cons c after =>
      have hc : isBlank c = true := hafter c rfl
      have hskip : words (c :: after) = words after := words_append_cons hc [] after
      rw [words_append_cons hc, words_eq_singleton hne hsolid, hskip]
      rfl
  rcases before.eq_nil_or_concat with rfl | ⟨front, c, rfl⟩
  · exact hback
  · have hc : isBlank c = true := hbefore c (by simp)
    have hcut : front.concat c ++ word ++ after = front ++ c :: (word ++ after) := by simp
    have hend : words (front.concat c) = words front := by
      rw [List.concat_eq_append, words_append_cons hc]
      exact List.append_nil _
    rw [hcut, words_append_cons hc, hback, hend]

theorem mem_words_of_isWord {text : List Char} (h : IsWord word text) : word ∈ words text := by
  obtain ⟨hne, hsolid, before, after, rfl, hbefore, hafter⟩ := h
  rw [words_around hne hsolid hbefore hafter]
  exact List.mem_append_right _ List.mem_cons_self

/-- The words of a text are those that stand in it. -/
theorem mem_words_iff {text : List Char} : word ∈ words text ↔ IsWord word text :=
  ⟨isWord_of_mem_words, mem_words_of_isWord⟩

end NativeBinding.Text
