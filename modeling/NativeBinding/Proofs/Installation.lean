import NativeBinding.Proofs.Creation
import NativeBinding.Proofs.LibraryTables
import NativeBinding.Proofs.Tags
import NativeBinding.Proofs.TableResolution

/-!
What a session keeps of its library from its creation. The capabilities are read off what the
provider answers at that time, and the creation fails then if a function of version 1.0 is missing.
-/
namespace NativeBinding.OpenCL

variable {host : Host} {d : Desk} {o : OwnerId} {provider : Provider} {w : World}
  {answer : String → Address}

/-- On this host every lookup in the provider answers what the function of the name gives. -/
def LooksUp (host : Host) (provider : Provider) (answer : String → Address) : Prop :=
  ∀ name w, ((provider.address name).run host w).1 = answer name

theorem LooksUp.eq_answer (h : LooksUp host provider answer) : provider.answer host = answer := by
  funext name
  rw [← h name (.initial host none), Provider.address_answer]

theorem Feature.missing?_eq_some_iff {feature : Feature} {missing : String} :
    feature.missing? answer = some missing ↔
      ∃ earlier later, feature.functions = earlier ++ missing :: later ∧ answer missing = .null ∧
        ∀ f ∈ earlier, answer f ≠ .null := by
  rw [missing?, List.find?_eq_some_iff_append, Address.isNull_iff]
  constructor
  · rintro ⟨hnull, earlier, later, hfunctions, hearlier⟩
    refine ⟨earlier, later, hfunctions, hnull, fun f hf hf' => ?_⟩
    simpa [Address.isNull_iff.mpr hf'] using hearlier f hf
  · rintro ⟨earlier, later, hfunctions, hnull, hearlier⟩
    refine ⟨hnull, earlier, later, hfunctions, fun f hf => ?_⟩
    have hne : (answer f).isNull ≠ true := fun h => hearlier f hf (Address.isNull_iff.mp h)
    simpa using hne

namespace Capabilities

/-- The capabilities are those that the provider of a complete library shows on this host. -/
def IsReadOff (host : Host) (provider : Provider) (c : Capabilities) : Prop :=
  Feature.core10.missing? (provider.answer host) = none ∧ c = ofAnswers (provider.answer host)

theorem contains_ofAnswers {tag : String} :
    (ofAnswers answer).contains tag = true ↔
      ∃ feature : Feature, feature.tag = tag ∧ feature.missing? answer = none := by
  simp only [contains, ofAnswers, CapabilitySet.contains_ofList, List.map_map, List.mem_map,
    List.mem_filter, Feature.mem_all, true_and, Option.isNone_iff_eq_none, Function.comp_apply,
    Feature.table]
  constructor
  · rintro ⟨feature, hcomplete, htag⟩
    exact ⟨feature, htag, hcomplete⟩
  · rintro ⟨feature, htag, hcomplete⟩
    exact ⟨feature, hcomplete, htag⟩

theorem contains_ofAnswers_iff_table {tag : String} :
    (ofAnswers answer).contains tag = true ↔ ((ofAnswers answer).table? tag).isSome := by
  rw [contains_ofAnswers]
  by_cases hknown : ∃ feature : Feature, feature.tag = tag
  · obtain ⟨feature, rfl⟩ := hknown
    rw [table?_ofAnswers, Option.isSome_ite]
    constructor
    · rintro ⟨other, htag, hcomplete⟩
      exact Feature.tag_inj htag ▸ hcomplete
    · exact fun hcomplete => ⟨feature, rfl, hcomplete⟩
  · have hunknown : ∀ feature : Feature, feature.tag ≠ tag := fun feature h => hknown ⟨feature, h⟩
    have hnone : (ofAnswers answer).table? tag = none := Feature.find?_table_of_unknown hunknown
    rw [hnone]
    constructor
    · rintro ⟨feature, htag, -⟩
      exact absurd htag (hunknown feature)
    · nofun

end Capabilities

theorem Feature.get_table {feature : Feature} {name : String} (h : name ∈ feature.functions) :
    (feature.table answer).get name = answer name :=
  FunctionTable.get_of_mem rfl h

namespace OwnerId

/-- The session that an owner is given around a provider. -/
def sessionAround (o : OwnerId) (host : Host) (provider : Provider) (strategy : Option Strategy) :
    Session where
  owner := o
  provider := some provider
  library := .ofAnswers (provider.answer host)
  strategy

/-- A session is made if no function of version 1.0 is missing, and else the first one that is
makes it fail. -/
theorem install_run (o : OwnerId) (provider : Provider) (strategy : Option Strategy) (host : Host)
    (d : Desk) :
    ∃ w, (o.install provider strategy).run host d =
      match Feature.core10.missing? (provider.answer host) with
      | some missing => (.error (.missingCoreFunction missing), Desk.putWorld w d)
      | none => (.ok d.nextSession,
          Desk.putWorld w (d.added (o.sessionAround host provider strategy))) := by
  have hanswer := releasedOnFailure_answer host provider d.world (Capabilities.ofLibrary provider)
  rw [Capabilities.ofLibrary_answer] at hanswer
  rw [install, Attempt.run_bind, Desk.run_liftAttempt]
  rcases hrun : (provider.releasedOnFailure (Capabilities.ofLibrary provider)).run host d.world
    with ⟨outcome, w⟩
  rw [hrun] at hanswer
  obtain rfl := hanswer
  cases Feature.core10.missing? (provider.answer host) with
  | some missing => exact ⟨w, rfl⟩
  | none => exact ⟨_, rfl⟩

end OwnerId

namespace Creation

/-- The name that the call would load a library by. -/
def libraryName? : Creation → Option String
  | create config | getOrCreate config => some config.openCLLibrary
  | fromLibrary name => some name
  | fromProvider _ => none

/-- The call gets as far as to make a session around a provider: the one that it is given, or the
resolver around the library that it has loaded. -/
inductive Reaches (host : Host) (d : Desk) (o : OwnerId) (call : Creation) : Provider → Prop
  | given {provider : Provider} (hgiven : call.provider? = some provider)
      (hfree : d.held o = none) : Reaches host d o call provider
  | opened {name : String} {l : SharedLibrary} {r : Resolver} {w w' : World}
      (hname : call.libraryName? = some name) (hfree : d.held o = none)
      (hallowed : call.refusal? o d = none)
      (hload : (SharedLibrary.load name libraryFallbacks).run host d.world = (.ok l, w))
      (hresolver : (resolverFor (.shared l)).run host w = (.ok r, w')) :
      Reaches host d o call (.resolver r (.shared l))

variable {call : Creation}

theorem run_of_given (hgiven : call.provider? = some provider) (hfree : d.held o = none) :
    (call.attempt o).run host d = (o.install provider none).run host d := by
  cases call with
  | fromProvider given =>
    cases hgiven
    simp [attempt, OwnerId.createFromProvider, OwnerId.session?, Attempt.run_bind, hfree]
  | create config => cases hgiven
  | fromLibrary name => cases hgiven
  | getOrCreate config => cases hgiven

theorem run_of_allowed {name : String} (hname : call.libraryName? = some name)
    (hfree : d.held o = none) (hallowed : call.refusal? o d = none) :
    (call.attempt o).run host d = (o.loadSession name).run host d := by
  cases call with
  | fromProvider given => cases hname
  | create config =>
    cases hname
    simp [attempt, OwnerId.create, OwnerId.createFromLibrary, OwnerId.session?, Attempt.run_bind,
      hfree]
  | fromLibrary name =>
    cases hname
    simp [attempt, OwnerId.createFromLibrary, OwnerId.session?, Attempt.run_bind, hfree]
  | getOrCreate config =>
    cases hname
    cases hexplicit : config.explicitStart with
    | true => simp [refusal?, hfree, hexplicit] at hallowed
    | false =>
      simp [attempt, OwnerId.getOrCreate, OwnerId.session?, Attempt.run_bind, hfree, hexplicit]

/-- Nothing that happened before the session is made changes anything but the world. -/
theorem run_of_reaches (h : Reaches host d o call provider) :
    ∃ strategy w, (call.attempt o).run host d =
      (o.install provider strategy).run host (Desk.putWorld w d) := by
  cases h with
  | given hgiven hfree => exact ⟨none, d.world, run_of_given hgiven hfree⟩
  | @opened name l r w w' hname hfree hallowed hload hresolver =>
    refine ⟨some r.strategy, w', ?_⟩
    have hworld : (Desk.putWorld w d).world = w := rfl
    rw [run_of_allowed hname hfree hallowed, OwnerId.loadSession, Attempt.run_bind,
      Desk.run_liftAttempt, hload]
    dsimp only
    rw [Attempt.run_bind, Desk.run_liftAttempt, hworld, hresolver]
    rfl

/-- A call for an owner that holds a session makes none. -/
theorem sessions_eq_of_held {s : SessionId} (call : Creation) (host : Host)
    (hheld : d.held o = some s) : ((call.attempt o).run host d).2.sessions = d.sessions := by
  cases call with
  | fromProvider given =>
    rw [attempt, OwnerId.createFromProvider, Attempt.run_bind, Attempt.run_liftM]
    simp only [OwnerId.session?, Action.run_bind, Action.run_get, Action.run_pure, hheld]
    rfl
  | create config =>
    simp [attempt, OwnerId.create, OwnerId.createFromLibrary, OwnerId.session?, Attempt.run_bind,
      hheld]
  | fromLibrary name =>
    simp [attempt, OwnerId.createFromLibrary, OwnerId.session?, Attempt.run_bind, hheld]
  | getOrCreate config =>
    simp [attempt, OwnerId.getOrCreate, OwnerId.session?, Attempt.run_bind, hheld]

/-- A call that loads a library gets as far, or leaves the sessions as they are. -/
theorem reaches_or_of_name {name : String} (hname : call.libraryName? = some name)
    (hload : call.provider? = none) (hfree : d.held o = none) (host : Host) :
    (∃ provider, Reaches host d o call provider) ∨
      ((call.attempt o).run host d).2.sessions = d.sessions := by
  cases hrefusal : call.refusal? o d with
  | some failure =>
    right
    rw [(run_refused hload hrefusal host).1]
  | none =>
    rw [run_of_allowed hname hfree hrefusal, OwnerId.loadSession, Attempt.run_bind,
      Desk.run_liftAttempt]
    rcases hrun : (SharedLibrary.load name libraryFallbacks).run host d.world with
      ⟨failure | l, w⟩
    · exact .inr rfl
    · have hworld : (Desk.putWorld w d).world = w := rfl
      dsimp only
      rw [Attempt.run_bind, Desk.run_liftAttempt, hworld]
      rcases hrun' : (resolverFor (.shared l)).run host w with ⟨failure | r, w'⟩
      · exact .inr rfl
      · exact .inl ⟨_, .opened hname hfree hrefusal hrun hrun'⟩

theorem reaches_or_sessions_eq (call : Creation) (host : Host) (d : Desk) (o : OwnerId) :
    (∃ provider, Reaches host d o call provider) ∨
      ((call.attempt o).run host d).2.sessions = d.sessions := by
  cases hheld : d.held o with
  | some s => exact .inr (sessions_eq_of_held call host hheld)
  | none =>
    cases call with
    | fromProvider provider => exact .inl ⟨provider, .given rfl hheld⟩
    | create config => exact reaches_or_of_name rfl rfl hheld host
    | fromLibrary name => exact reaches_or_of_name rfl rfl hheld host
    | getOrCreate config => exact reaches_or_of_name rfl rfl hheld host

end Creation

end NativeBinding.OpenCL
