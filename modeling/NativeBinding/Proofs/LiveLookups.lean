import NativeBinding.Proofs.SessionOrigins

/-!
What a session keeps of its library beside what is looked up through it. The capabilities are worked
out once; for a provider that goes on answering each name the same, they stay right as long as the
session is active.
-/
namespace NativeBinding.Scenario

open OpenCL

variable {host : Host} {d : Desk} {o : OwnerId} {call : Creation} {provider : Provider}
  {answer : String → Address}

/-- How a creation ends that gets as far as to make a session around a provider with these
answers. -/
structure Decides (host : Host) (d : Desk) (o : OwnerId) (call : Creation) (provider : Provider)
    (answer : String → Address) : Prop where
  /-- It succeeds exactly if no function of version 1.0 is missing. -/
  created_iff : (∃ s, ((call.attempt o).run host d).1 = .ok s) ↔
    ∀ f ∈ Feature.core10.functions, answer f ≠ .null
  /-- Otherwise it fails, and names the first one that is. -/
  failed_iff : ∀ failure, ((call.attempt o).run host d).1 = .error failure ↔
    ∃ missing earlier later, failure = .missingCoreFunction missing ∧
      Feature.core10.functions = earlier ++ missing :: later ∧ answer missing = .null ∧
      ∀ f ∈ earlier, answer f ≠ .null
  /-- The session that it makes is active, around this provider. -/
  active : ∀ s, ((call.attempt o).run host d).1 = .ok s →
    ∃ x, ((call.attempt o).run host d).2.sessions s = some x ∧ x.provider = some provider

/-- What capabilities say of a library agrees with what is looked up through a session. -/
structure Mirrors (host : Host) (d : Desk) (s : SessionId) (c : Capabilities) : Prop where
  contains_iff_table : ∀ tag, c.contains tag = true ↔ (c.table? tag).isSome
  table_iff_lookups : ∀ feature : Feature, (c.table? feature.tag).isSome ↔
    ∀ f ∈ feature.functions, ((s.address f).run host d).1 ≠ .null
  known : ∀ tag, c.contains tag = true → ∃ feature : Feature, feature.tag = tag
  get_eq_lookup : ∀ (feature : Feature) (table : FunctionTable),
    c.table? feature.tag = some table →
      ∀ f ∈ feature.functions, table.get f = ((s.address f).run host d).1

/-- What is missing of version 1.0 decides. -/
theorem decides_of_reaches (hreaches : call.Reaches host d o provider)
    (hanswer : LooksUp host provider answer) : Decides host d o call provider answer := by
  obtain ⟨strategy, w, hrun⟩ := Creation.run_of_reaches hreaches
  obtain ⟨w', hinstall⟩ := o.install_run provider strategy host (Desk.putWorld w d)
  rw [hanswer.eq_answer] at hinstall
  rw [hinstall] at hrun
  cases hmissing : Feature.core10.missing? answer with
  | some missing =>
    rw [hmissing] at hrun
    have hlacks : ¬ ∀ f ∈ Feature.core10.functions, answer f ≠ .null := by
      rw [← Feature.missing?_eq_none_iff, hmissing]
      nofun
    constructor
    case created_iff => simp [hrun, hlacks]
    case failed_iff =>
      intro failure
      simp only [hrun, Except.error.injEq]
      constructor
      · rintro rfl
        obtain ⟨earlier, later, hfirst⟩ := Feature.missing?_eq_some_iff.mp hmissing
        exact ⟨missing, earlier, later, rfl, hfirst⟩
      · rintro ⟨other, earlier, later, rfl, hfirst⟩
        have hother := Feature.missing?_eq_some_iff.mpr ⟨earlier, later, hfirst⟩
        rw [hmissing] at hother
        cases hother
        rfl
    case active => simp [hrun]
  | none =>
    rw [hmissing] at hrun
    constructor
    case created_iff => simpa [hrun] using Feature.missing?_eq_none_iff.mp hmissing
    case failed_iff =>
      intro failure
      simp only [hrun, reduceCtorEq, false_iff]
      rintro ⟨other, earlier, later, -, hfirst⟩
      have hother := Feature.missing?_eq_some_iff.mpr ⟨earlier, later, hfirst⟩
      rw [hmissing] at hother
      cases hother
    case active =>
      intro s hs
      rw [hrun] at hs
      cases hs
      rw [hrun]
      exact ⟨o.sessionAround host provider strategy, assign_same _ _ _, rfl⟩

/-- Capabilities read off answers that are given still agree with them. -/
theorem mirrors_of_isReadOff {now : Host} {s : SessionId} {c : Capabilities}
    (hprovider : d.provider? s = some provider) (hread : c.IsReadOff host provider)
    (hthen : LooksUp host provider answer) (hnow : LooksUp now provider answer) :
    Mirrors now d s c := by
  obtain ⟨-, rfl⟩ := hread
  rw [hthen.eq_answer]
  have hlookup : ∀ name, ((s.address name).run now d).1 = answer name := by
    intro name
    simpa [SessionId.address, SessionId.provider?, hprovider] using hnow name d.world
  constructor
  case contains_iff_table => exact fun tag => Capabilities.contains_ofAnswers_iff_table
  case table_iff_lookups =>
    intro feature
    simp only [hlookup]
    rw [Capabilities.table?_ofAnswers, Option.isSome_ite, Feature.missing?_eq_none_iff]
  case known =>
    intro tag htag
    obtain ⟨feature, hfeature, -⟩ := Capabilities.contains_ofAnswers.mp htag
    exact ⟨feature, hfeature⟩
  case get_eq_lookup =>
    intro feature table htable f hf
    rw [Capabilities.table?_ofAnswers] at htable
    obtain ⟨-, htable⟩ := Option.ite_none_right_eq_some.mp htable
    rw [hlookup, ← Option.some.inj htable, Feature.get_table hf]

/-- Whether a session is made hangs on the functions of version 1.0 alone, once there is a provider
to make it around. In every run, as long as a session is active and its provider answers each name
the same all through, the capabilities that the session was made with agree with every lookup. -/
theorem library_mirrors_lookups :
    (∀ host d o call provider answer, Creation.Reaches host d o call provider →
      LooksUp host provider answer → Decides host d o call provider answer) ∧
    ∀ first now turns s x provider answer,
      (reached first turns).desk.sessions s = some x → x.provider = some provider →
      (∀ t ∈ turns, LooksUp t.host provider answer) → LooksUp now provider answer →
        Mirrors now (reached first turns).desk s x.library := by
  constructor
  · intro host d o call provider answer hreaches hanswer
    exact decides_of_reaches hreaches hanswer
  · intro first now turns s x provider answer hx hprovider hturns hnow
    obtain ⟨t, ht, hread⟩ := reached_origin hx hprovider
    have hactive : (reached first turns).desk.provider? s = some provider := by
      rw [Desk.provider?, hx]
      exact hprovider
    exact mirrors_of_isReadOff hactive hread (hturns t ht) hnow

/-- A library without one of the functions that share buffers, and a session around it. -/
theorem library_mirrors_lookups_partial :
    let answer (name : String) : Address :=
      if name = "clCreateFromGLBuffer" then .null else .ofWord 1
    let host := Host.ofLists [{ symbol := answer }] []
    let provider := Provider.supplied { number := 0, library := 0, isFull := true }
    let turns := [Turn.mk host (.session (.createFromProvider "global" (.supplied 0) none))]
    LooksUp host provider answer ∧
      Decides host (.initial (.initial host none)) 0 (.fromProvider provider) provider answer ∧
      ∃ x, (reached host turns).desk.sessions 0 = some x ∧ x.provider = some provider ∧
        Mirrors host (reached host turns).desk 0 x.library := by
  intro answer host provider turns
  have hanswer : LooksUp host provider answer := fun _ _ => rfl
  have hreaches : Creation.Reaches host (.initial (.initial host none)) 0 (.fromProvider provider)
      provider := .given rfl rfl
  refine ⟨hanswer, library_mirrors_lookups.1 _ _ _ _ _ _ hreaches hanswer, ?_⟩
  have hx : (reached host turns).desk.sessions 0 = some
      (OwnerId.sessionAround 0 host provider none) := rfl
  have hturns : ∀ t ∈ turns, LooksUp t.host provider answer := by simpa [turns] using hanswer
  exact ⟨_, hx, rfl,
    library_mirrors_lookups.2 host host turns 0 _ provider answer hx rfl hturns hanswer⟩

end NativeBinding.Scenario
