import NativeBinding.Text.Blank
import Mathlib.Data.List.TakeWhile

/-!
Maximal runs of characters, and trimming read as a cut: white space, a text with none at either
end, white space.
-/
namespace NativeBinding.Text

variable {p : Char → Bool} {run rest cs core core' : List Char}

/-- The text does not start with a character of the class. -/
def Stops (p : Char → Bool) (cs : List Char) : Prop := ∀ c ∈ cs.head?, p c = false

theorem stops_nil (p : Char → Bool) : Stops p [] := by simp [Stops]

theorem stops_cons {c : Char} : Stops p (c :: cs) ↔ p c = false := by simp [Stops]

theorem stops_dropWhile (p : Char → Bool) (cs : List Char) : Stops p (cs.dropWhile p) := by
  intro c hc
  have hstop := List.head?_dropWhile_not p cs
  rw [Option.mem_def.mp hc] at hstop
  exact hstop

/-- Where the text does not start with the class, nothing is dropped. -/
theorem dropWhile_of_stops (h : Stops p cs) : cs.dropWhile p = cs := by
  cases cs with
  | nil => rfl
  | cons c cs => exact List.dropWhile_cons_of_neg (by simp [stops_cons.mp h])

theorem takeWhile_of_stops (h : Stops p cs) : cs.takeWhile p = [] := by
  cases cs with
  | nil => rfl
  | cons c cs => exact List.takeWhile_cons_of_neg (by simp [stops_cons.mp h])

theorem takeWhile_run (hrun : ∀ c ∈ run, p c = true) (hrest : Stops p rest) :
    (run ++ rest).takeWhile p = run := by
  rw [List.takeWhile_append_of_pos hrun, takeWhile_of_stops hrest, List.append_nil]

theorem dropWhile_run (hrun : ∀ c ∈ run, p c = true) (hrest : Stops p rest) :
    (run ++ rest).dropWhile p = rest := by
  rw [List.dropWhile_append_of_pos hrun, dropWhile_of_stops hrest]

/-- A text is what remains of another one after white space is cut off at both of its ends, and
neither of its own ends is white space. -/
def Trims (cs core : List Char) : Prop :=
  ∃ left right, cs = left ++ core ++ right ∧ (∀ c ∈ left, isBlank c = true) ∧
    (∀ c ∈ right, isBlank c = true) ∧ Stops isBlank core ∧ Stops isBlank core.reverse

theorem trimStart_run (hrun : ∀ c ∈ run, isBlank c = true) (hrest : Stops isBlank rest) :
    trimStart (run ++ rest) = rest := dropWhile_run hrun hrest

/-- What is cut off in front is white space. -/
theorem exists_blank_trimStart (cs : List Char) :
    ∃ blank, (∀ c ∈ blank, isBlank c = true) ∧ cs = blank ++ trimStart cs :=
  ⟨cs.takeWhile isBlank, fun _ => List.mem_takeWhile_imp, List.takeWhile_append_dropWhile.symm⟩

theorem trimEnd_run (hcore : Stops isBlank core.reverse) (hrun : ∀ c ∈ run, isBlank c = true) :
    trimEnd (core ++ run) = core := by
  have hback : (core ++ run).reverse.dropWhile isBlank = core.reverse := by
    rw [List.reverse_append]
    exact dropWhile_run (by simpa using hrun) hcore
  rw [trimEnd, hback, List.reverse_reverse]

/-- What is cut off behind is white space. -/
theorem exists_blank_trimEnd (cs : List Char) :
    ∃ blank, (∀ c ∈ blank, isBlank c = true) ∧ cs = trimEnd cs ++ blank := by
  obtain ⟨blank, hblank, hcs⟩ := exists_blank_trimStart cs.reverse
  refine ⟨blank.reverse, by simpa using hblank, ?_⟩
  apply List.reverse_inj.mp
  rw [List.reverse_append, trimEnd, List.reverse_reverse, List.reverse_reverse]
  exact hcs

/-- Cutting off behind leaves the front as it is. -/
theorem stops_trimEnd (h : Stops isBlank cs) : Stops isBlank (trimEnd cs) := by
  obtain ⟨blank, -, hcs⟩ := exists_blank_trimEnd cs
  intro c hc
  apply h
  rw [hcs, List.head?_append, Option.mem_def.mp hc]
  rfl

theorem trims_trim (cs : List Char) : Trims cs (trim cs) := by
  obtain ⟨left, hleft, hcs⟩ := exists_blank_trimStart cs
  obtain ⟨right, hright, hrest⟩ := exists_blank_trimEnd (trimStart cs)
  refine ⟨left, right, ?_, hleft, hright, ?_, ?_⟩
  · rw [List.append_assoc, trim, ← hrest]
    exact hcs
  · exact stops_trimEnd (stops_dropWhile isBlank cs)
  · rw [trim, trimEnd, List.reverse_reverse]
    exact stops_dropWhile isBlank _

/-- An empty core is the only one in white space alone, so the cut is unique there too. -/
theorem trim_of_trims (h : Trims cs core) : trim cs = core := by
  obtain ⟨left, right, rfl, hleft, hright, hfront, hback⟩ := h
  cases core with
  | nil =>
    have hall : ∀ c ∈ left ++ right, isBlank c = true := by
      intro c hc
      rcases List.mem_append.mp hc with hc | hc
      · exact hleft c hc
      · exact hright c hc
    have hstart : trimStart (left ++ [] ++ right) = [] := by
      simpa using trimStart_run hall (stops_nil isBlank)
    rw [trim, hstart]
    rfl
  | cons c core =>
    have hcut : Stops isBlank (c :: core ++ right) := stops_cons.mpr (stops_cons.mp hfront)
    rw [trim, List.append_assoc, trimStart_run hleft hcut]
    exact trimEnd_run hback hright

theorem trims_iff : Trims cs core ↔ trim cs = core :=
  ⟨trim_of_trims, fun h => h ▸ trims_trim cs⟩

end NativeBinding.Text
