import NativeBinding.Proofs.Answers
import NativeBinding.Proofs.Lookups

/-!
Who holds what. A provider holds what it draws on; constructions open it and pass it on, and each
release of a provider ends it once.
-/
namespace NativeBinding

/-- Releases of it are recorded. -/
def Serial.IsRecorded : Serial → Prop
  | .library _ | .full _ => True
  | .plain _ => False

theorem Serial.isRecorded_library (n : Nat) : (Serial.library n).IsRecorded := True.intro

/-- How often an outcome holds something; a failure holds nothing. -/
def heldBy {ε α : Type} (f : α → Nat) : Except ε α → Nat
  | .ok a => f a
  | .error _ => 0

namespace Provider

/-- How often the provider holds `k`: once if it draws on it. -/
def holds (k : Serial) (provider : Provider) : Nat := if provider.root = some k then 1 else 0

theorem holds_pos {k : Serial} {provider : Provider} (h : provider.root = some k) :
    0 < provider.holds k := by
  simp [holds, h]

@[simp] theorem holds_resolver (k : Serial) (r : Resolver) (inner : Provider) :
    (Provider.resolver r inner).holds k = if r.released then 0 else inner.holds k := by
  cases h : r.released <;> simp [holds, root, h]

end Provider

/-- How often what a call was given holds `k`. -/
def givenHolds (k : Serial) (given : Option Provider) : Nat :=
  (given.map (Provider.holds k)).getD 0

@[simp] theorem givenHolds_none (k : Serial) : givenHolds k none = 0 := rfl

@[simp] theorem givenHolds_some (k : Serial) (provider : Provider) :
    givenHolds k (some provider) = provider.holds k := rfl

variable {host : Host} {k j : Serial} {w w' : World}

theorem Life.after_end {e : Event} {es : List Event} {life : Life} {others : Nat}
    (hopen : e.opens? = none) (hconsult : e.consults? = none) (hend : e.ends? = some j)
    (hes : ∀ life : Life, life.after k es = life) (hlife : life ≠ .violated)
    (hholders : life.holders = (if j = k then 1 else 0) + others) :
    life.after k (e :: es) ≠ .violated ∧ (life.after k (e :: es)).holders = 0 + others := by
  rw [after_cons, hes]
  by_cases hk : j = k
  · have hlive : life = .live := by
      rw [if_pos hk] at hholders
      exact holders_pos.mp (by omega)
    subst hlive
    have hothers : others = 0 := by
      simp only [holders, if_pos hk] at hholders
      omega
    simp [step, hopen, hconsult, hend, hk, holders, hothers]
  · simp only [if_neg hk] at hholders
    simp [step, hopen, hconsult, hend, hk, hlife, hholders]

namespace SharedLibrary

/-- What a release records: the close, and a report if that fails. -/
def releaseEvents (host : Host) (l : SharedLibrary) (opened : OpenLibrary)
    (receiver : Option String) : List Event :=
  .closed opened.file opened.serial ::
    match (host.closing opened.file).fault? with
    | none => []
    | some fault => [.message receiver .warning (unloadText l.path fault)]

theorem run_release (l : SharedLibrary) {opened : OpenLibrary} (h : l.opened = some opened)
    (host : Host) (w : World) :
    l.release.run host w = ({ l with opened := none }, { w with
      history := (l.releaseEvents host opened (w.handler.map Handler.name)).reverse ++ w.history })
    := by
  simp only [release, releaseEvents, h, OpenLibrary.close, emit, Action.run_bind,
    Action.run_modify, Action.run_read]
  cases (host.closing opened.file).fault? <;> rfl

theorem release_closing (l : SharedLibrary) (host : Host) (k : Serial) (w : World) :
    Closing host k ((Provider.shared l).holds k) 0 w (l.release.run host w).2 := by
  cases hopened : l.opened with
  | none =>
    simp only [release, hopened, Provider.holds, Provider.root]
    exact .refl host k 0 w
  | some opened =>
    rw [l.run_release hopened]
    refine ⟨l.releaseEvents host opened (w.handler.map Handler.name), ?_, ?_⟩
    · constructor
      case history => rfl
      case numbers => exact Nat.le_refl _
      all_goals
        unfold releaseEvents
        cases hfault : (host.closing opened.file).fault? with
        | none => ?_
        | some fault => ?_
      case opened.none => simp [Event.opens?]
      case opened.some => simp [Event.opens?]
      case reported.none =>
        refine .quiet ?_ id .nil
        rintro file _ ⟨⟩
        exact hfault
      case reported.some => exact .failing hfault .nil
      all_goals
        intro life others hlife hholders _
        refine Life.after_end rfl rfl rfl (fun _ => rfl) hlife ?_
        simpa [Provider.holds, Provider.root, hopened] using hholders
    · unfold releaseEvents
      cases (host.closing opened.file).fault? <;> simp [Event.isUse]

end SharedLibrary

namespace Provider

/-- Releasing a provider ends what it draws on. -/
theorem release_closing (hk : k.IsRecorded) (provider : Provider) (host : Host) (w : World) :
    Closing host k (provider.holds k) 0 w (provider.release.run host w).2 := by
  induction provider with
  | shared l => exact l.release_closing host k w
  | resolver r inner ih =>
    rw [release, Action.run_ite, holds_resolver]
    split
    · exact .refl host k 0 w
    · exact ih
  | supplied p =>
    simp only [release, Action.run_bind, Action.run_ite, Action.run_pure]
    cases hfull : p.isFull with
    | false =>
      have hholds : (Provider.supplied p).holds k = 0 := by
        rw [holds, if_neg]
        rintro ⟨⟩
        simp [SuppliedProvider.serial, hfull, Serial.IsRecorded] at hk
      rw [hholds]
      exact .refl host k 0 w
    | true =>
      refine ⟨[.released p.serial p.library], ?_, by simp [Event.isUse]⟩
      constructor
      case history => rfl
      case numbers => exact Nat.le_refl _
      case opened => simp [Event.opens?]
      case reported => exact .quiet (by simp) id .nil
      case life =>
        intro life others hlife hholders _
        refine Life.after_end rfl rfl rfl (fun _ => rfl) hlife ?_
        simpa [holds, root] using hholders

theorem releaseFully_closing (hk : k.IsRecorded) (provider : Provider) (host : Host) (w : World) :
    Closing host k (provider.holds k) 0 w (provider.releaseFully.run host w).2 :=
  provider.release_closing hk host w

/-- Dropping a provider ends what it draws on, unless that is the application's own. -/
theorem drop_closing (hk : k.IsRecorded) (provider : Provider)
    (hbare : ∀ p, provider = .supplied p → p.serial ≠ k) (host : Host) (w : World) :
    Closing host k (provider.holds k) 0 w (provider.drop.run host w).2 := by
  cases provider with
  | shared l => exact releaseFully_closing hk (.shared l) host w
  | resolver r inner => exact releaseFully_closing hk (.resolver r inner) host w
  | supplied p =>
    have hholds : (Provider.supplied p).holds k = 0 := by
      simp [holds, root, hbare p rfl]
    rw [hholds]
    exact .refl host k 0 w

/-- Releasing gives no number. -/
theorem release_number (provider : Provider) (host : Host) (w : World) :
    (provider.release.run host w).2.nextNumber = w.nextNumber := by
  induction provider with
  | supplied p => cases hfull : p.isFull <;> simp [release, hfull, emit]
  | shared l =>
    cases hopened : l.opened with
    | none => simp [release, SharedLibrary.release, hopened]
    | some opened => simp [release, l.run_release hopened]
  | resolver r inner ih =>
    rw [release, Action.run_ite]
    split
    · rfl
    · exact ih

/-- A provider that was released draws on nothing, unless it is the application's own. -/
theorem root_release (provider : Provider) (host : Host) (w : World)
    (hbare : ∀ p, provider ≠ .supplied p) : (provider.release.run host w).1.root = none := by
  cases provider with
  | supplied p => exact (hbare p rfl).elim
  | shared l =>
    simp only [release, Action.run_bind, Action.run_pure, root]
    cases hopened : l.opened with
    | none => simp [SharedLibrary.release, hopened]
    | some opened => simp [l.run_release hopened]
  | resolver r inner =>
    rw [release, Action.run_ite]
    split
    · simp_all [root]
    · rfl

end Provider

/-- The attempt turns what is held `a` times into a result that holds it. Nothing is ended on the
way to a result; if there is none, nothing is held any more. -/
def Attempt.Builds {α : Type} (host : Host) (k : Serial) (a : Nat) (f : α → Nat)
    (x : Attempt World α) : Prop :=
  ∀ w, match x.run host w with
    | (.ok r, w') => Acting host k a (f r) w w'
    | (.error _, w') => Phased host k a 0 w w'

namespace Attempt.Builds

variable {α β : Type} {a : Nat} {f : α → Nat} {g : β → Nat}

theorem pure (r : α) (h : f r = a) : (Pure.pure r : Attempt World α).Builds host k a f := by
  intro w
  subst h
  exact .refl host k _ w

theorem throw (failure : Failure) :
    (MonadExcept.throw failure : Attempt World α).Builds host k 0 f := fun w =>
  (Acting.refl host k 0 w).phased

theorem bind {x : Attempt World α} {y : α → Attempt World β} (hx : x.Builds host k a f)
    (hy : ∀ r, (y r).Builds host k (f r) g) : (x >>= y).Builds host k a g := by
  intro w
  have hfirst := hx w
  rw [run_bind]
  rcases hxr : x.run host w with ⟨_ | r, v⟩ <;> rw [hxr] at hfirst
  · exact hfirst
  · have hsecond := hy r v
    dsimp only
    rcases hyr : (y r).run host v with ⟨_ | s, w'⟩ <;> rw [hyr] at hsecond
    · exact hfirst.then hsecond
    · exact hfirst.trans hsecond

/-- Asking the provider for anything leaves it held. -/
theorem consult {x : Action World α} {provider : Provider}
    (h : x.Within (Consulting provider.root)) :
    (liftM x : Attempt World α).Builds host k (provider.holds k) fun _ => provider.holds k :=
  fun w => (h host w).acting host Provider.holds_pos

end Attempt.Builds

/-- Every result of the attempt satisfies `p`. -/
def Attempt.Gives {σ α : Type} (p : α → Prop) (x : Attempt σ α) : Prop :=
  ∀ host s r, (x.run host s).1 = .ok r → p r

theorem Attempt.Gives.pure {σ α : Type} {p : α → Prop} {r : α} (h : p r) :
    (Pure.pure r : Attempt σ α).Gives p := by
  rintro host s r ⟨⟩
  exact h

theorem Attempt.Gives.bind {σ α β : Type} {p : β → Prop} {x : Attempt σ α} {y : α → Attempt σ β}
    (h : ∀ r, (y r).Gives p) : (x >>= y).Gives p := by
  intro host s r hr
  rw [run_bind_fst] at hr
  cases hx : (x.run host s).1 with
  | error failure => simp [hx] at hr
  | ok a =>
    rw [hx] at hr
    exact h a host _ r hr

/-- What fails around a provider releases it. -/
theorem Provider.releasedOnFailure_builds {α : Type} (hk : k.IsRecorded) (provider : Provider)
    {f : α → Nat} {x : Attempt World α} (h : x.Within (Consulting provider.root))
    (hf : x.Gives fun r => f r = provider.holds k) :
    (provider.releasedOnFailure x).Builds host k (provider.holds k) f := by
  intro w
  have hx : Acting host k (provider.holds k) (provider.holds k) w (x.run host w).2 :=
    (h host w).acting host Provider.holds_pos
  have hresult := hf host w
  rw [releasedOnFailure, Attempt.run_tryCatch]
  rcases hrun : x.run host w with ⟨_ | r, v⟩ <;> rw [hrun] at hx hresult
  · exact ⟨_, v, hx, provider.releaseFully_closing hk host v⟩
  · simpa [hresult r rfl] using hx

theorem Provider.releasedOnFailure_number {α : Type} (provider : Provider) {x : Attempt World α}
    (h : x.Within (Consulting provider.root)) (host : Host) (w : World) :
    ((provider.releasedOnFailure x).run host w).2.nextNumber = w.nextNumber := by
  obtain ⟨es, -, hnumber, -⟩ := h host w
  rw [releasedOnFailure, Attempt.run_tryCatch]
  rcases hrun : x.run host w with ⟨_ | r, v⟩ <;> rw [hrun] at hnumber
  · exact (provider.release_number host v).trans hnumber
  · exact hnumber

/-- Opening a file makes the library that is opened held. -/
theorem openFile_acting (host : Host) (k : Serial) (name : String) (w : World) :
    Acting host k 0 (heldBy (fun l => if l.serial = k then 1 else 0) ((openFile name).run host w).1)
      w ((openFile name).run host w).2 := by
  unfold openFile
  cases LibraryName.native? name with
  | error fault => exact .refl host k 0 w
  | ok file =>
    simp only [Action.run_bind, Action.run_read]
    cases host.openFile file with
    | fails text =>
      have hlookup : (Event.opened file none).IsLookup none :=
        ⟨rfl, rfl, by simp [Event.consults?], id⟩
      exact (emit_within hlookup host w).acting host (by simp)
    | opens library closing =>
      refine ⟨[.opened file (some (.library w.nextNumber))], ?_, by simp [Event.isEnd, Event.ends?]⟩
      constructor
      case history => rfl
      case numbers => exact Nat.le_succ _
      case opened =>
        simp only [List.mem_singleton, forall_eq, Event.opens?, Option.some.injEq]
        rintro rfl
        exact ⟨Nat.le_refl _, Nat.lt_succ_self _⟩
      case reported => exact .quiet (by simp) id .nil
      case life =>
        intro life others hlife hholders hfresh
        simp only [List.mem_singleton, forall_eq, Event.opens?, Option.some.injEq] at hfresh
        by_cases hk : Serial.library w.nextNumber = k
        · obtain rfl := hfresh hk
          have hothers : others = 0 := by
            simp only [Life.holders] at hholders
            omega
          simp [Life.step, Event.opens?, hk, heldBy, OpenLibrary.serial, newNumber, Life.holders,
            hothers]
        · have hconsult : (Event.opened file (some (.library w.nextNumber))).consults? = none := rfl
          have hend : (Event.opened file (some (.library w.nextNumber))).ends? = none := rfl
          simp [Life.step, Event.opens?, hk, hconsult, hend, hlife, hholders, heldBy,
            OpenLibrary.serial, newNumber]

namespace SharedLibrary

theorem openCandidate_acting (host : Host) (k : Serial) (name candidate : String) (w : World) :
    Acting host k 0 (heldBy (fun l => (Provider.shared l).holds k)
      ((openCandidate name candidate).run host w).1) w
      ((openCandidate name candidate).run host w).2 := by
  have hopen := openFile_acting host k candidate w
  unfold openCandidate
  rw [Action.run_bind]
  rcases hrun : (openFile candidate).run host w with ⟨fault | opened, v⟩ <;> rw [hrun] at hopen
  · have hlog : (log .debug s!"Failed to load {candidate}: {fault.message}").Within
        (Consulting none) := log_within_of_ne _ (by decide)
    exact hopen.trans ((hlog host v).acting host nofun)
  · have hlog : (log .debug s!"Loaded native library {candidate}").Within
        (Consulting (some opened.serial)) := log_within_of_ne _ (by decide)
    have hholds : (Provider.shared { name, path := candidate, opened := some opened }).holds k =
        if opened.serial = k then 1 else 0 := by
      simp [Provider.holds, Provider.root]
    simp only [heldBy, Action.run_bind, Action.run_pure, hholds] at hopen ⊢
    refine hopen.trans ((hlog host v).acting host ?_)
    rintro ⟨⟩
    simp

/-- A name that can be passed to the loader is tried, and only such a name is opened. -/
theorem openCandidate_tries (host : Host) (name candidate : String) (w : World)
    (h : (∃ file, LibraryName.native? candidate = .ok file) ∨
      ∃ l, ((openCandidate name candidate).run host w).1 = .ok l) :
    Tries w ((openCandidate name candidate).run host w).2 := by
  unfold openCandidate openFile at h ⊢
  cases hnative : LibraryName.native? candidate with
  | error fault => simp [hnative] at h
  | ok file =>
    simp only [Action.run_bind, Action.run_read]
    cases host.openFile file with
    | fails text => exact ⟨[_, _], rfl, file, _, .head _⟩
    | opens library closing => exact ⟨[_, _], rfl, file, _, .head _⟩

/-- Trying candidates makes the one that opens held, if one does. -/
theorem openFirst_builds (name candidate : String) (candidates : List String) :
    (openFirst name candidate candidates).Builds host k 0 fun l => (Provider.shared l).holds k := by
  induction candidates generalizing candidate with
  | nil =>
    intro w
    have htry := openCandidate_acting host k name candidate w
    rw [openFirst, Attempt.run_bind, Attempt.run_liftM]
    rcases hrun : (openCandidate name candidate).run host w with ⟨_ | l, v⟩ <;> rw [hrun] at htry
    · exact htry.phased
    · exact htry
  | cons next candidates ih =>
    intro w
    have htry := openCandidate_acting host k name candidate w
    rw [openFirst, Attempt.run_bind, Attempt.run_liftM]
    rcases hrun : (openCandidate name candidate).run host w with ⟨_ | l, v⟩ <;> rw [hrun] at htry
    · have hnext := ih next v
      dsimp only
      rcases hrest : (openFirst name next candidates).run host v with ⟨_ | l, w'⟩ <;>
        rw [hrest] at hnext
      · exact htry.then hnext
      · exact htry.trans hnext
    · exact htry

theorem load_builds (name : String) (fallbacks : List String) :
    (load name fallbacks).Builds host k 0 fun l => (Provider.shared l).holds k := by
  unfold load
  split
  · exact .throw _
  · exact openFirst_builds name _ fallbacks

end SharedLibrary

/-- A resolver holds what the provider held that it is built around. -/
theorem OpenCL.resolverFor_builds (hk : k.IsRecorded) (provider : Provider) :
    (resolverFor provider).Builds host k (provider.holds k)
      fun r => (Provider.resolver r provider).holds k := by
  refine (Attempt.Builds.consult (provider.address_within _)).bind fun generic => ?_
  refine (Attempt.Builds.consult (provider.address_within _)).bind fun perPlatform => ?_
  refine (provider.releasedOnFailure_builds hk (chooseStrategy_within provider _ _)
    fun _ _ _ _ => rfl).bind fun strategy => ?_
  refine (Attempt.Builds.consult (log_within_of_ne _ (by decide))).bind fun _ => ?_
  exact .pure _ (by simp)

/-- An OpenAL library holds what its provider held. -/
theorem OpenAL.AudioLibrary.ofProvider_builds (hk : k.IsRecorded) (provider : Provider) :
    (ofProvider provider).Builds host k (provider.holds k) fun a => a.provider.holds k := by
  refine provider.releasedOnFailure_builds hk ?_ ?_
  · exact (provider.requireEntry_within _).bind fun _ => (provider.requireEntry_within _).bind
      fun _ => (provider.requireEntry_within _).bind fun _ => (provider.requireEntry_within _).bind
        fun _ => .pure _
  · exact .bind fun _ => .bind fun _ => .bind fun _ => .bind fun _ => .pure rfl

theorem OpenAL.AudioLibrary.load_builds (hk : k.IsRecorded) (config : Config) :
    (load config).Builds host k 0 fun a => a.provider.holds k :=
  (SharedLibrary.load_builds _ _).bind fun l => ofProvider_builds hk (.shared l)

/-- A headset runtime holds what its provider held. -/
theorem LibOVR.HeadsetRuntime.ofProvider_builds (hk : k.IsRecorded) (provider : Provider) :
    (ofProvider provider).Builds host k (provider.holds k) fun r => r.provider.holds k := by
  refine provider.releasedOnFailure_builds hk ?_ ?_
  · exact (provider.requireEntry_within _).bind fun _ => (provider.requireEntry_within _).bind
      fun _ => (provider.requireEntry_within _).bind fun _ => .pure _
  · exact .bind fun _ => .bind fun _ => .bind fun _ => .pure rfl

theorem LibOVR.HeadsetRuntime.load_builds (hk : k.IsRecorded) (config : Config) :
    (load config).Builds host k 0 fun r => r.provider.holds k :=
  (SharedLibrary.load_builds _ _).bind fun l => ofProvider_builds hk (.shared l)

namespace LibOVR.HeadsetRuntime

variable (r : HeadsetRuntime)

theorem shutdown_provider (host : Host) (w : World) :
    (r.shutdown.run host w).1.provider = r.provider := by
  rw [shutdown, Action.run_ite]
  split <;> rfl

/-- A runtime that is dropped is shut down, and then ends what it holds. -/
theorem drop_phased (hk : k.IsRecorded) (host : Host) (w : World) :
    Phased host k (r.provider.holds k) 0 w (r.drop.run host w).2 := by
  refine ⟨r.provider.holds k, (r.shutdown.run host w).2, ?_, ?_⟩
  · exact (r.shutdown_within host w).acting host Provider.holds_pos
  · rw [← r.shutdown_provider host w]
    exact (r.shutdown.run host w).1.provider.releaseFully_closing hk host _

/-- Shutting down calls the native function once if the runtime is started, and else not at all. -/
theorem shutdown_calls (host : Host) (w : World) :
    ∃ es : List Event, (r.shutdown.run host w).2.history = es.reverse ++ w.history ∧
      (∀ e ∈ es, e.isEnd = false) ∧
      es.count (.called r.shutdownEntry.library .ovrShutdown) = if r.isStarted then 1 else 0 := by
  rw [shutdown, Action.run_ite]
  split
  · let p : Event → Prop := fun e => e.isUse = false ∧ e.isEnd = false
    have hforward : ∀ m, (forward m).Within (Recording p) := by
      intro m
      unfold forward
      cases m.text with
      | none => exact .pure _
      | some text => exact log_recording fun _ => ⟨rfl, rfl⟩
    have hrest : Action.Within (Recording p) (do
        Native.report forward r.shutdownEntry.library
          (← theLibrary r.shutdownEntry.library).runtime.shutdownMessages
        log .info "LibOVR shut down") :=
      (Action.Within.theLibrary _).bind fun _ => (Native.report_within hforward _ _).bind
        fun _ => log_recording fun _ => ⟨rfl, rfl⟩
    let call : Event := .called r.shutdownEntry.library .ovrShutdown
    obtain ⟨es, hhistory, -, hes⟩ := hrest host { w with history := call :: w.history }
    refine ⟨call :: es, ?_, ?_, ?_⟩
    · rw [List.reverse_cons, List.append_assoc]
      exact hhistory
    · intro e he
      rcases List.mem_cons.mp he with rfl | he
      · rfl
      · exact (hes e he).2
    · have hnone : es.count call = 0 := by
        rw [List.count_eq_zero]
        intro hcall
        simpa [call, Event.isUse] using (hes call hcall).1
      rw [List.count_cons_self, hnone]
  · exact ⟨[], rfl, by simp, rfl⟩

end LibOVR.HeadsetRuntime

end NativeBinding
