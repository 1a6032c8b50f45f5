import Mathlib.Data.List.TakeDrop
import Mathlib.Data.List.TakeWhile
import NativeBinding.Proofs.Loading

/-!
Which names are short ones. A path is cut at its slashes; a name is short if nothing but its first
segment counts, and that segment has no extension.
-/
namespace NativeBinding.LibraryName

/-- The segments of a path, a slash between each two of them. -/
structure IsCut (path : List Char) (segments : List (List Char)) : Prop where
  joined : ['/'].intercalate segments = path
  whole : ∀ s ∈ segments, '/' ∉ s

/-- The path is relative, only its first segment stands for anything, and that segment is a dot, two
dots, or has no dot behind its first character. -/
def IsShort (path : List Char) : Prop :=
  path.head? ≠ some '/' ∧ ∃ first rest, IsCut path (first :: rest) ∧
    (∀ s ∈ rest, s = [] ∨ s = ['.']) ∧ (first = ['.'] ∨ first = ['.', '.'] ∨ '.' ∉ first.tail)

variable {path first : List Char} {rest segments : List (List Char)}

theorem IsCut.splitOn_eq (h : IsCut path segments) (hne : segments ≠ []) :
    path.splitOn '/' = segments := by
  rw [← h.joined]
  exact List.splitOn_intercalate '/' h.whole hne

theorem slash_notMem_of_mem_splitOn {s : List Char} (h : s ∈ path.splitOn '/') : '/' ∉ s := by
  induction path generalizing s with
  | nil =>
    obtain rfl : s = [] := by simpa using h
    exact List.not_mem_nil
  | cons c path ih =>
    rw [List.splitOn_cons_eq_if_modifyHead] at h
    split at h
    · rcases List.mem_cons.mp h with rfl | h
      · exact List.not_mem_nil
      · exact ih h
    · rename_i hc
      obtain ⟨head, tail, hsegments⟩ :=
        List.exists_cons_of_ne_nil (List.splitOn_ne_nil '/' path)
      rw [hsegments, List.modifyHead_cons] at h
      rcases List.mem_cons.mp h with rfl | h
      · rw [List.mem_cons]
        rintro (rfl | hslash)
        · simp at hc
        · exact ih (hsegments ▸ List.mem_cons_self) hslash
      · exact ih (hsegments ▸ List.mem_cons_of_mem _ h)

theorem exists_isCut (path : List Char) : ∃ first rest, IsCut path (first :: rest) := by
  obtain ⟨first, rest, hsegments⟩ := List.exists_cons_of_ne_nil (List.splitOn_ne_nil '/' path)
  refine ⟨first, rest, ?_, ?_⟩
  · rw [← hsegments]
    exact List.intercalate_splitOn '/'
  · intro s hs
    exact slash_notMem_of_mem_splitOn (hsegments ▸ hs)

/-- A path has only one cut, so it is short if that one shows it. -/
theorem isShort_iff (h : IsCut path (first :: rest)) : IsShort path ↔
    path.head? ≠ some '/' ∧ (∀ s ∈ rest, s = [] ∨ s = ['.']) ∧
      (first = ['.'] ∨ first = ['.', '.'] ∨ '.' ∉ first.tail) := by
  constructor
  · rintro ⟨hhead, first', rest', h', hrest, hfirst⟩
    have hsame := (h.splitOn_eq (by simp)).symm.trans (h'.splitOn_eq (by simp))
    obtain ⟨rfl, rfl⟩ := List.cons.inj hsame
    exact ⟨hhead, hrest, hfirst⟩
  · rintro ⟨hhead, hrest, hfirst⟩
    exact ⟨hhead, first, rest, h, hrest, hfirst⟩

/-- The component that the first segment of a relative path stands for. -/
def Component.leading (segment : List Char) : Component :=
  if segment = ['.'] then .here
  else if segment = ['.', '.'] then .parent
  else .name segment

theorem components_eq_cons (h : IsCut path (first :: rest)) (hne : first ≠ []) :
    components path = .leading first :: rest.filterMap Component.ofSegment? := by
  unfold components
  rw [h.splitOn_eq (by simp)]
  by_cases hhere : first = ['.']
  · subst hhere
    rfl
  · have hsegment : Component.ofSegment? first = some (.leading first) := by
      by_cases hparent : first = ['.', '.'] <;>
        simp [Component.ofSegment?, Component.leading, hne, hhere, hparent]
    split
    · simp_all
    · simp_all
    · exact List.filterMap_cons_some hsegment

/-- Only empty segments and dots stand for nothing. -/
theorem filterMap_ofSegment?_eq_nil_iff :
    rest.filterMap Component.ofSegment? = [] ↔ ∀ s ∈ rest, s = [] ∨ s = ['.'] := by
  rw [List.filterMap_eq_nil_iff]
  refine forall₂_congr fun s _ => ?_
  unfold Component.ofSegment?
  by_cases hnone : s = [] ∨ s = ['.']
  · simp [hnone]
  · rw [if_neg hnone]
    by_cases hparent : s = ['.', '.'] <;> simp [hnone, hparent]

/-- What a name has from its last dot on, read from the end: the dot and what lies before it. -/
def fromLastDot (file : List Char) : List Char := file.reverse.dropWhile (· ≠ '.')

theorem extension?_isSome_iff_length {file : List Char} (h : fileName? path = some file) :
    (extension? path).isSome ↔ 1 < (fromLastDot file).length := by
  simp only [extension?, h, Option.bind_eq_bind, Option.bind_some,
    List.span_eq_takeWhile_dropWhile, fromLastDot]
  rcases file.reverse.dropWhile (· ≠ '.') with _ | ⟨dot, _ | ⟨c, before⟩⟩ <;> simp

theorem eq_dot_of_fromLastDot {file before : List Char} {dot : Char}
    (h : fromLastDot file = dot :: before) : dot = '.' := by
  have hfirst := List.head?_dropWhile_not (fun c => decide (c ≠ '.')) file.reverse
  unfold fromLastDot at h
  rw [h] at hfirst
  simpa using hfirst

/-- The last dot is searched from the end of the name: what is found first there lies behind it, and
what is left after it lies before. -/
theorem length_fromLastDot_iff (file : List Char) :
    1 < (fromLastDot file).length ↔ '.' ∈ file.tail := by
  have hcut : file.reverse.takeWhile (· ≠ '.') ++ fromLastDot file = file.reverse :=
    List.takeWhile_append_dropWhile
  have hbehind : '.' ∉ file.reverse.takeWhile (· ≠ '.') := by
    intro hdot
    have := List.mem_takeWhile_imp hdot
    simp at this
  generalize file.reverse.takeWhile (· ≠ '.') = behind at hcut hbehind
  rw [← List.reverse_inj, List.reverse_reverse, List.reverse_append] at hcut
  rcases hrest : fromLastDot file with _ | ⟨dot, _ | ⟨c, before⟩⟩ <;> rw [hrest] at hcut
  · have hnone : '.' ∉ file.tail := by
      intro hdot
      have hmem := List.mem_of_mem_tail hdot
      simp [← hcut, hbehind] at hmem
    simp [hnone]
  · have hnone : '.' ∉ file.tail := by simp [← hcut, hbehind]
    simp [hnone]
  · obtain rfl := eq_dot_of_fromLastDot hrest
    have hdot : '.' ∈ file.tail := by
      obtain ⟨first, front, hfront⟩ := List.exists_cons_of_ne_nil
        (show before.reverse ++ [c] ≠ [] by simp)
      simp [← hcut, hfront]
    simp [hdot]

theorem extension?_isSome_iff {file : List Char} (h : fileName? path = some file) :
    (extension? path).isSome ↔ '.' ∈ file.tail := by
  rw [extension?_isSome_iff_length h, length_fromLastDot_iff]

theorem fileName?_eq_none {c : Component} (h : components path = [c])
    (hc : ∀ text, c ≠ .name text) : fileName? path = none := by
  unfold fileName?
  rw [h]
  cases c with
  | name text => exact (hc text rfl).elim
  | _ => rfl

theorem extension?_eq_none (h : fileName? path = none) : extension? path = none := by
  simp [extension?, h]

/-- The extension of a path whose first segment alone counts. -/
theorem extension?_eq_none_iff (h : components path = [.leading first]) :
    extension? path = none ↔ first = ['.'] ∨ first = ['.', '.'] ∨ '.' ∉ first.tail := by
  by_cases hhere : first = ['.']
  · have hnone := fileName?_eq_none h (by simp [Component.leading, hhere])
    simp [extension?_eq_none hnone, hhere]
  · by_cases hparent : first = ['.', '.']
    · have hnone := fileName?_eq_none h (by simp [Component.leading, hparent])
      simp [extension?_eq_none hnone, hparent]
    · have hname : fileName? path = some first := by
        simp [fileName?, h, Component.leading, hhere, hparent]
      rw [← Option.not_isSome_iff_eq_none, extension?_isSome_iff hname]
      simp [hhere, hparent]

theorem head?_of_isCut (h : IsCut path (first :: rest)) (hne : first ≠ []) :
    path.head? ≠ some '/' := by
  obtain ⟨c, cs, rfl⟩ := List.exists_cons_of_ne_nil hne
  have hc : c ≠ '/' := fun hc => h.whole _ List.mem_cons_self (hc ▸ List.mem_cons_self)
  have hhead : path.head? = some c := by
    rw [← h.joined]
    cases rest with
    | nil => rfl
    | cons second rest => simp [List.intercalate_cons_cons]
  simp [hhead, hc]

theorem isFile_eq_false_iff (name : String) : isFile name = false ↔ IsShort name.toList := by
  obtain ⟨first, rest, hcut⟩ := exists_isCut name.toList
  rw [isShort_iff hcut]
  simp only [isFile, isAbsolute, Bool.or_eq_false_iff, decide_eq_false_iff_not,
    beq_eq_false_iff_ne, Option.isSome_eq_false_iff, Option.isNone_iff_eq_none]
  by_cases hne : first = []
  · subst hne
    cases rest with
    | nil =>
      have hempty : name.toList = [] := hcut.joined.symm
      simp [hempty, components, extension?, fileName?]
    | cons second rest =>
      have habsolute : name.toList.head? = some '/' := by
        simp [← hcut.joined, List.intercalate_cons_cons]
      simp [habsolute]
  · have hrelative := head?_of_isCut hcut hne
    have hcomponents := components_eq_cons hcut hne
    rw [hcomponents, ← filterMap_ofSegment?_eq_nil_iff]
    generalize rest.filterMap Component.ofSegment? = behind at hcomponents
    have hlength : ¬ 1 < (Component.leading first :: behind).length ↔ behind = [] := by
      cases behind <;> simp
    have hextension : behind = [] → (extension? name.toList = none ↔
        first = ['.'] ∨ first = ['.', '.'] ∨ '.' ∉ first.tail) := by
      rintro rfl
      exact extension?_eq_none_iff hcomponents
    rw [hlength, and_congr_right hextension, and_comm]

theorem fileFor_ne_self (name : String) : fileFor name ≠ name := by
  intro h
  have hlength := congrArg String.length h
  simp only [fileFor, String.length_append] at hlength
  change 3 + name.length + 3 = name.length at hlength
  omega

/-- A name that is not empty stands for a library file if it is a short one, and for itself
otherwise. Whatever else there is to try, what it stands for is tried first. -/
theorem primary_of_name (name : String) (h : name ≠ "") :
    (primary name = "lib" ++ name ++ ".so" ↔ IsShort name.toList) ∧
      (primary name = name ↔ ¬ IsShort name.toList) ∧
      ∀ fallbacks host w, ∃ es,
        TakesFirst host w.receiver w.nextNumber name (primary name :: fallbacks)
          ((SharedLibrary.load name fallbacks).run host w).1 es ∧
        ((SharedLibrary.load name fallbacks).run host w).2 = w.going es := by
  refine ⟨?_, ?_, ?_⟩
  · rw [← isFile_eq_false_iff, primary]
    cases isFile name with
    | true => simpa [fileFor] using (fileFor_ne_self name).symm
    | false => simp [fileFor]
  · rw [← isFile_eq_false_iff, primary]
    cases isFile name with
    | true => simp
    | false => simpa using fileFor_ne_self name
  · intro fallbacks host w
    rw [SharedLibrary.load, if_neg h]
    exact SharedLibrary.openFirst_takesFirst host name (primary name) fallbacks w

/-- Slashes and dots behind the parent directory change nothing about it, so it is a short name. -/
theorem primary_of_parent :
    "..//." ≠ "" ∧ LibraryName.primary "..//." = "lib..//..so" := by
  refine ⟨by decide, (primary_of_name "..//." (by decide)).1.mpr ?_⟩
  refine ⟨by decide, ['.', '.'], [[], ['.']], ⟨by decide, by decide⟩, by decide, by decide⟩

end NativeBinding.LibraryName
