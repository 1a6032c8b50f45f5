import NativeBinding.Binding.Config
import NativeBinding.Proofs.CharRuns

/-!
Which change decides a setting. One change either writes the setting or leaves it alone, so after
any sequence of changes it is as the last one that writes it left it.
-/
namespace NativeBinding.Config

open Text (Trims isBlank)

/-- What the rest of the program reads off the settings. -/
inductive Setting where
  | openCLLibrary
  | openALLibrary
  | libOVRLibrary
  | explicitStart

namespace Setting

abbrev Value : Setting → Type
  | openCLLibrary | openALLibrary | libOVRLibrary => String
  | explicitStart => Bool

def of (c : Config) : (s : Setting) → s.Value
  | openCLLibrary => c.openCLLibrary
  | openALLibrary => c.openALLibrary
  | libOVRLibrary => c.libOVRLibrary
  | explicitStart => c.explicitStart

def default : (s : Setting) → s.Value
  | openCLLibrary => "OpenCL"
  | openALLibrary => "openal"
  | libOVRLibrary => "OVRRT64_0"
  | explicitStart => false

/-- The key that the setting has in an environment. -/
def key : Setting → String
  | openCLLibrary => openCLKey
  | openALLibrary => openALKey
  | libOVRLibrary => libOVRKey
  | explicitStart => explicitKey

/-- What a text in an environment stands for. A name stands for itself; a setting is switched on by
certain words, in capitals or not and with white space around them or not, and else off. -/
def Reads (text : String) : (s : Setting) → s.Value → Prop
  | openCLLibrary, v | openALLibrary, v | libOVRLibrary, v => v = text
  | explicitStart, v => v = true ↔ ∃ core, Trims text.toList core ∧
      String.ofList (core.map Char.toLower) ∈ ["true", "1", "yes"]

/-- The environment has a text for the setting, and it is not white space alone. -/
def Gives (values : String → Option String) (s : Setting) (v : s.Value) : Prop :=
  ∃ text, values s.key = some text ∧ (∃ c ∈ text.toList, isBlank c = false) ∧ Reads text s v

end Setting

/-- The texts of a process environment, as far as its values are texts. -/
def texts (values : String → Option (List UInt8)) (key : String) : Option String :=
  values key >>= Text.Utf8.decode?

/-- The change writes the setting, and leaves it with this value. -/
inductive Writes : Step → (s : Setting) → s.Value → Prop
  | openCL (name : Option String) :
    Writes (.openCL name) .openCLLibrary (name.getD Setting.openCLLibrary.default)
  | openAL (name : Option String) :
    Writes (.openAL name) .openALLibrary (name.getD Setting.openALLibrary.default)
  | libOVR (name : Option String) :
    Writes (.libOVR name) .libOVRLibrary (name.getD Setting.libOVRLibrary.default)
  | explicitStart (value : Bool) : Writes (.explicitStart value) .explicitStart value
  | reset (s : Setting) : Writes .reset s s.default
  | environment {values : String → Option String} {s : Setting} {v : s.Value} :
    s.Gives values v → Writes (.environment values) s v
  | processGiven {values : String → Option (List UInt8)} {s : Setting} {v : s.Value} :
    s.Gives (texts values) v → Writes (.processEnvironment values) s v
  | processDefault {values : String → Option (List UInt8)} {s : Setting} :
    (∀ v, ¬ s.Gives (texts values) v) → Writes (.processEnvironment values) s s.default

/-- None of the changes writes the setting. -/
def Spares (steps : List Step) (s : Setting) : Prop := ∀ step ∈ steps, ∀ v, ¬ Writes step s v

/-- The last of the changes that write the setting leaves it with this value. -/
def WritesLast (steps : List Step) (s : Setting) (v : s.Value) : Prop :=
  ∃ before step after, steps = before ++ step :: after ∧ Writes step s v ∧ Spares after s

/-- One environment put over another: where its value is missing or blank, that of the other
counts. -/
def overlay (lower upper : String → Option String) (key : String) : Option String :=
  match upper key with
  | some text => if Text.isAllBlank text then lower key else some text
  | none => lower key

theorem isSwitchedOn_iff (text : String) : isSwitchedOn text = true ↔
    ∃ core, Trims text.toList core ∧
      String.ofList (core.map Char.toLower) ∈ ["true", "1", "yes"] := by
  rw [isSwitchedOn, decide_eq_true_iff]
  constructor
  · intro h
    exact ⟨Text.trim text.toList, Text.trims_trim _, h⟩
  · rintro ⟨core, hcore, h⟩
    rwa [Text.trim_of_trims hcore]

theorem setting?_eq_some_iff {values : String → Option String} {key text : String} :
    setting? values key = some text ↔
      values key = some text ∧ ∃ c ∈ text.toList, isBlank c = false := by
  simp [setting?, Option.filter_eq_some_iff, Text.isAllBlank]

namespace Setting

variable {values : String → Option String} {s : Setting} {v : s.Value}

/-- The value that a text stands for. -/
def read (text : String) : (s : Setting) → s.Value
  | openCLLibrary | openALLibrary | libOVRLibrary => text
  | explicitStart => isSwitchedOn text

theorem reads_iff (text : String) (s : Setting) (v : s.Value) :
    Reads text s v ↔ v = s.read text := by
  cases s with
  | explicitStart =>
    rw [Reads, ← isSwitchedOn_iff, ← Bool.eq_iff_iff]
    rfl
  | _ => rfl

theorem gives_iff : s.Gives values v ↔ (setting? values s.key).map s.read = some v := by
  simp only [Gives, reads_iff, Option.map_eq_some_iff, setting?_eq_some_iff, and_assoc,
    eq_comm (a := v)]

theorem of_applyEnvironment (c : Config) (values : String → Option String) (s : Setting) :
    s.of (c.applyEnvironment values) = ((setting? values s.key).map s.read).getD (s.of c) := by
  cases s with
  | explicitStart => rfl
  | openCLLibrary =>
    simp only [of, key, applyEnvironment]
    cases setting? values openCLKey <;> rfl
  | openALLibrary =>
    simp only [of, key, applyEnvironment]
    cases setting? values openALKey <;> rfl
  | libOVRLibrary =>
    simp only [of, key, applyEnvironment]
    cases setting? values libOVRKey <;> rfl

theorem of_applyEnvironment_of_gives (c : Config) (h : s.Gives values v) :
    s.of (c.applyEnvironment values) = v := by
  rw [of_applyEnvironment, gives_iff.mp h, Option.getD_some]

theorem of_applyEnvironment_of_not_gives (c : Config) (h : ∀ v, ¬ s.Gives values v) :
    s.of (c.applyEnvironment values) = s.of c := by
  rw [of_applyEnvironment]
  cases hread : (setting? values s.key).map s.read with
  | none => rfl
  | some v => exact (h v (gives_iff.mpr hread)).elim

theorem of_empty (s : Setting) : s.of {} = s.default := by cases s <;> rfl

end Setting

open Setting

variable {step : Step} {steps : List Step} {s : Setting} {v : s.Value}

theorem of_apply_of_writes (c : Config) (h : Writes step s v) : s.of (c.apply step) = v := by
  cases h with
  | openCL name => rfl
  | openAL name => rfl
  | libOVR name => rfl
  | explicitStart value => rfl
  | reset => exact of_empty s
  | environment h => exact of_applyEnvironment_of_gives c h
  | processGiven h => exact of_applyEnvironment_of_gives {} h
  | processDefault h => exact (of_applyEnvironment_of_not_gives {} h).trans (of_empty s)

/-- A change that does not write a setting leaves it alone. The process environment is no such
change: it starts from the defaults. -/
theorem of_apply_of_not_writes (c : Config) (h : ∀ v, ¬ Writes step s v) :
    s.of (c.apply step) = s.of c := by
  cases step with
  | openCL name =>
    cases s with
    | openCLLibrary => exact (h _ (.openCL name)).elim
    | _ => rfl
  | openAL name =>
    cases s with
    | openALLibrary => exact (h _ (.openAL name)).elim
    | _ => rfl
  | libOVR name =>
    cases s with
    | libOVRLibrary => exact (h _ (.libOVR name)).elim
    | _ => rfl
  | explicitStart value =>
    cases s with
    | explicitStart => exact (h _ (.explicitStart value)).elim
    | _ => rfl
  | reset => exact (h _ (.reset s)).elim
  | environment values =>
    apply of_applyEnvironment_of_not_gives
    intro v hgives
    exact h v (.environment hgives)
  | processEnvironment values =>
    apply (h s.default (.processDefault _)).elim
    intro v hgives
    exact h v (.processGiven hgives)

theorem applyAll_append (c : Config) (steps steps' : List Step) :
    c.applyAll (steps ++ steps') = (c.applyAll steps).applyAll steps' := List.foldl_append

theorem of_applyAll_of_spares (c : Config) (h : Spares steps s) :
    s.of (c.applyAll steps) = s.of c := by
  induction steps generalizing c with
  | nil => rfl
  | cons step steps ih =>
    have hrest : Spares steps s := fun t ht => h t (List.mem_cons_of_mem _ ht)
    exact (ih (c.apply step) hrest).trans (of_apply_of_not_writes c (h step List.mem_cons_self))

theorem of_applyAll_of_writesLast (c : Config) (h : WritesLast steps s v) :
    s.of (c.applyAll steps) = v := by
  obtain ⟨before, step, after, rfl, hwrites, hafter⟩ := h
  rw [applyAll_append]
  exact (of_applyAll_of_spares _ hafter).trans (of_apply_of_writes _ hwrites)

/-- Looked at from its end, a sequence has a last change that writes the setting, or none. -/
theorem spares_or_writesLast (steps : List Step) (s : Setting) :
    Spares steps s ∨ ∃ v, WritesLast steps s v := by
  induction steps with
  | nil => exact .inl (by simp [Spares])
  | cons step steps ih =>
    rcases ih with hspares | ⟨v, before, last, after, rfl, hlast⟩
    · by_cases hwrites : ∃ v, Writes step s v
      · obtain ⟨v, hv⟩ := hwrites
        exact .inr ⟨v, [], step, steps, rfl, hv, hspares⟩
      · refine .inl (List.forall_mem_cons.mpr ⟨?_, hspares⟩)
        exact fun v hv => hwrites ⟨v, hv⟩
    · exact .inr ⟨v, step :: before, last, after, rfl, hlast⟩

theorem setting?_overlay (lower upper : String → Option String) (key : String) :
    setting? (overlay lower upper) key = (setting? upper key).or (setting? lower key) := by
  unfold setting? overlay
  cases upper key with
  | none => rfl
  | some text => cases hblank : Text.isAllBlank text <;> simp [Option.filter, hblank]

theorem overlay_self (values : String → Option String) : overlay values values = values := by
  funext key
  unfold overlay
  cases values key with
  | none => rfl
  | some text => simp

theorem applyEnvironment_overlay (c : Config) (lower upper : String → Option String) :
    c.applyEnvironment (overlay lower upper) =
      (c.applyEnvironment lower).applyEnvironment upper := by
  simp only [applyEnvironment, setting?_overlay, Option.orElse_eq_orElse, Option.orElse_eq_or,
    Option.or_assoc, Option.map_or, Option.getD_or]

/-- After any sequence of changes each setting is as the last one that writes it left it, and as it
was before if none does. Of two environments applied in turn only their overlay counts, and one
applied again changes nothing. -/
theorem decided_by_last_write :
    (∀ (c : Config) (steps : List Step) (s : Setting) (v : s.Value),
      s.of (c.applyAll steps) = v ↔
        WritesLast steps s v ∨ Spares steps s ∧ s.of c = v) ∧
    (∀ (c : Config) (lower upper : String → Option String),
      (c.applyEnvironment lower).applyEnvironment upper =
        c.applyEnvironment (overlay lower upper)) ∧
    ∀ (c : Config) (values : String → Option String),
      (c.applyEnvironment values).applyEnvironment values = c.applyEnvironment values := by
  refine ⟨?_, ?_, ?_⟩
  · intro c steps s v
    constructor
    · rintro rfl
      rcases spares_or_writesLast steps s with hspares | ⟨v, hlast⟩
      · exact .inr ⟨hspares, (of_applyAll_of_spares c hspares).symm⟩
      · rw [of_applyAll_of_writesLast c hlast]
        exact .inl hlast
    · rintro (hlast | ⟨hspares, rfl⟩)
      · exact of_applyAll_of_writesLast c hlast
      · exact of_applyAll_of_spares c hspares
  · intro c lower upper
    exact (applyEnvironment_overlay c lower upper).symm
  · intro c values
    rw [← applyEnvironment_overlay, overlay_self]

end NativeBinding.Config
