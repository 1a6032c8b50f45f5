import NativeBinding.Proofs.Sessions

/-!
Creating sessions. A creation ends in one of three ways: it finds a session, it adds one around what
it opened or was given, or it fails, and then all of that is released.
-/
namespace NativeBinding.OpenCL

variable {host : Host} {k : Serial} {d d' : Desk} {o : OwnerId} {given : Option Provider}

/-- How a creation for an owner ends that was given a provider, or none. -/
inductive Creates (host : Host) (given : Option Provider) (o : OwnerId) (d : Desk) :
    Except Failure SessionId × Desk → Prop where
  | found {s : SessionId} : given = none → d.held o = some s → Creates host given o d (.ok s, d)
  | created {x : Session} {provider : Provider} {w : World} :
    d.held o = none → x.owner = o → x.provider = some provider →
    ((∀ p, given = some p → p.Sound) → provider.root.isSome) →
    (∀ k : Serial, k.IsRecorded →
      Acting host k (givenHolds k given) (provider.holds k) d.world w) →
    (given.isSome → w.nextNumber = d.world.nextNumber) →
    Creates host given o d (.ok d.nextSession, Desk.putWorld w (d.added x))
  | failed {failure : Failure} {w : World} :
    (∀ k : Serial, k.IsRecorded → Phased host k (givenHolds k given) 0 d.world w) →
    (given.isSome → w.nextNumber = d.world.nextNumber) →
    Creates host given o d (.error failure, Desk.putWorld w d)

/-- A creation that opened what it then was given was given nothing before. -/
theorem Creates.of_opened {provider : Provider} {w : World} {r : Except Failure SessionId × Desk}
    (hacting : ∀ k : Serial, k.IsRecorded → Acting host k 0 (provider.holds k) d.world w)
    (hsound : provider.Sound) (h : Creates host (some provider) o (Desk.putWorld w d) r) :
    Creates host none o d r := by
  cases h with
  | found hgiven _ => cases hgiven
  | created hfree howner hprovider hroot hbuilt _ =>
    refine .created hfree howner hprovider (fun _ => hroot ?_) (fun k hk => ?_) nofun
    · rintro p ⟨⟩
      exact hsound
    · exact (hacting k hk).trans (hbuilt k hk)
  | failed hreleased _ =>
    exact .failed (fun k hk => (hacting k hk).then (hreleased k hk)) nofun

namespace OwnerId

theorem install_creates (provider : Provider) (strategy : Option Strategy)
    (hfree : d.held o = none) :
    Creates host (some provider) o d ((o.install provider strategy).run host d) := by
  have hbuilds : ∀ k : Serial, k.IsRecorded →
      (provider.releasedOnFailure (Capabilities.ofLibrary provider)).Builds host k
        (provider.holds k) fun _ => provider.holds k := fun k hk =>
    provider.releasedOnFailure_builds hk (Capabilities.ofLibrary_within provider) fun _ _ _ _ => rfl
  replace hbuilds := fun k hk => hbuilds k hk d.world
  have hnumber := provider.releasedOnFailure_number (Capabilities.ofLibrary_within provider) host
    d.world
  have hok := releasedOnFailure_answer host provider d.world (Capabilities.ofLibrary provider)
  rw [install, Attempt.run_bind, Desk.run_liftAttempt]
  rcases hrun : (provider.releasedOnFailure (Capabilities.ofLibrary provider)).run host d.world
    with ⟨failure | library, w⟩
  all_goals rw [hrun] at hok hnumber; simp only [hrun] at hbuilds
  · exact .failed hbuilds fun _ => hnumber
  · have hlog : (log .info "[CL] OpenCL created").Within (Consulting provider.root) :=
      log_within_of_ne _ (by decide)
    refine .created (x := { owner := o, provider := some provider, library, strategy })
      hfree rfl rfl (fun hsound => ?_) (fun k hk =>
        (hbuilds k hk).trans ((hlog host w).acting host Provider.holds_pos)) fun _ => hnumber
    exact (hsound provider rfl).root_isSome (Capabilities.ofLibrary_ok hok.symm)

theorem loadSession_creates (name : String) (hfree : d.held o = none) :
    Creates host none o d ((o.loadSession name).run host d) := by
  have hload : ∀ k, (SharedLibrary.load name libraryFallbacks).Builds host k 0
      fun l => (Provider.shared l).holds k := fun k => SharedLibrary.load_builds _ _
  replace hload := fun k => hload k d.world
  rw [loadSession, Attempt.run_bind, Desk.run_liftAttempt]
  rcases hrun : (SharedLibrary.load name libraryFallbacks).run host d.world with ⟨failure | l, w⟩
  all_goals simp only [hrun] at hload
  · exact .failed (fun k _ => hload k) nofun
  · have hresolver : ∀ k : Serial, k.IsRecorded → (resolverFor (.shared l)).Builds host k
        ((Provider.shared l).holds k) fun r => (Provider.resolver r (.shared l)).holds k :=
      fun k hk => resolverFor_builds hk _
    replace hresolver := fun k hk => hresolver k hk w
    have hworld : (Desk.putWorld w d).world = w := rfl
    dsimp only
    rw [Attempt.run_bind, Desk.run_liftAttempt, hworld]
    rcases hrun' : (resolverFor (.shared l)).run host w with ⟨failure | r, w'⟩
    all_goals simp only [hrun'] at hresolver
    · exact .failed (w := w') (fun k hk => (hload k).then (hresolver k hk)) nofun
    · have hok : ((resolverFor (.shared l)).run host w).1 = .ok r := by rw [hrun']
      have hlive := (resolverFor_ok hok).1
      refine .of_opened (w := w') (fun k hk => (hload k).trans (hresolver k hk)) ?_
        (install_creates _ _ hfree)
      exact Provider.sound_resolver r ((Provider.sound_shared l).root_isSome hlive)

theorem createFromLibrary_creates (name : String) :
    Creates host none o d ((o.createFromLibrary name).run host d) := by
  rw [createFromLibrary, Attempt.run_bind, Attempt.run_liftM]
  cases ho : d.held o with
  | some s =>
    simp only [session?, Action.run_bind, Action.run_get, Action.run_pure, ho]
    exact .failed (fun k _ => (Acting.refl host k 0 d.world).phased) nofun
  | none =>
    simp only [session?, Action.run_bind, Action.run_get, Action.run_pure, ho]
    exact loadSession_creates name ho

theorem createFromProvider_creates (provider : Provider) :
    Creates host (some provider) o d ((o.createFromProvider provider).run host d) := by
  rw [createFromProvider, Attempt.run_bind, Attempt.run_liftM]
  cases ho : d.held o with
  | some s =>
    simp only [session?, Action.run_bind, Action.run_get, Action.run_pure, ho]
    exact .failed (fun k hk => (provider.releaseFully_closing hk host d.world).phased)
      fun _ => provider.release_number host d.world
  | none =>
    simp only [session?, Action.run_bind, Action.run_get, Action.run_pure, ho]
    exact install_creates provider none ho

theorem getOrCreate_creates (config : Config) :
    Creates host none o d ((o.getOrCreate config).run host d) := by
  rw [getOrCreate, Attempt.run_bind, Attempt.run_liftM]
  cases ho : d.held o with
  | some s =>
    simp only [session?, Action.run_bind, Action.run_get, Action.run_pure, ho]
    exact .found rfl ho
  | none =>
    simp only [session?, Action.run_bind, Action.run_get, Action.run_pure, ho]
    rw [Attempt.run_ite]
    split
    · exact .failed (fun k _ => (Acting.refl host k 0 d.world).phased) nofun
    · exact loadSession_creates _ ho

end OwnerId

namespace Creates

variable {r : Except Failure SessionId}

theorem coherent (h : Creates host given o d (r, d')) (hd : d.Coherent) : d'.Coherent := by
  cases h with
  | found _ _ => exact hd
  | failed _ _ => exact hd.putWorld _
  | created hfree howner hprovider _ _ _ =>
    subst howner
    exact (hd.added hfree (by simp [Session.isActive, hprovider])).putWorld _

/-- A creation leaves the sessions alone that there are. -/
theorem sessions (h : Creates host given o d (r, d')) (hd : d.Coherent) {s : SessionId}
    {x : Session} (hx : d.sessions s = some x) : d'.sessions s = some x := by
  cases h with
  | found _ _ => exact hx
  | failed _ _ => exact hx
  | created _ _ _ _ _ _ =>
    exact (assign_other _ _ (Nat.ne_of_lt (hd.lt_of_some hx))).trans hx

theorem held_other (h : Creates host given o d (r, d')) {o' : OwnerId} (hne : o' ≠ o) :
    d'.held o' = d.held o' := by
  cases h with
  | found _ _ => rfl
  | failed _ _ => rfl
  | created _ howner _ _ _ _ => exact assign_other _ _ (howner ▸ hne)

theorem nextOwner (h : Creates host given o d (r, d')) : d.nextOwner = d'.nextOwner := by
  cases h <;> rfl

theorem held_ok {s : SessionId} (h : Creates host given o d (.ok s, d')) : d'.held o = some s := by
  cases h with
  | found _ hs => exact hs
  | created _ howner _ _ _ _ =>
    subst howner
    simp [Desk.putWorld, Desk.added]

/-- A session that is added draws on something, as every other does. -/
theorem roots (h : Creates host given o d (r, d'))
    (hroots : ∀ s provider, d.provider? s = some provider → provider.root.isSome)
    (hsound : ∀ p, given = some p → p.Sound) :
    ∀ s provider, d'.provider? s = some provider → provider.root.isSome := by
  intro s p hs
  cases h with
  | found _ _ => exact hroots s p hs
  | failed _ _ => exact hroots s p hs
  | @created x provider w _ _ hprovider hroot _ _ =>
    have hp : (d.added x).provider? s = some p := hs
    by_cases hnew : s = d.nextSession
    · subst hnew
      simp only [Desk.provider?, Desk.added, assign_same, Option.bind_some, hprovider,
        Option.some.injEq] at hp
      exact hp ▸ hroot hsound
    · refine hroots s p ?_
      simpa only [Desk.provider?, Desk.added, assign_other _ _ hnew] using hp

theorem continues (h : Creates host given o d (r, d')) : Continues d.world d'.world := by
  cases h with
  | found _ _ => exact ⟨[], rfl⟩
  | failed hreleased _ => exact (hreleased _ (Serial.isRecorded_library 0)).continues
  | created _ _ _ _ hbuilt _ => exact (hbuilt _ (Serial.isRecorded_library 0)).continues

/-- What a creation was given, the new session holds, or nothing does. -/
theorem phased (h : Creates host given o d (r, d')) (hk : k.IsRecorded) :
    Phased host k (givenHolds k given + d.holders k) (d'.holders k) d.world d'.world := by
  cases h with
  | found hgiven _ =>
    subst hgiven
    rw [givenHolds_none, Nat.zero_add]
    exact (Acting.refl host k _ _).phased
  | failed hreleased _ =>
    have hframe := (hreleased k hk).frame (d.holders k)
    rwa [Nat.zero_add] at hframe
  | created _ _ hprovider _ hbuilt _ =>
    have hframe := (hbuilt k hk).frame (d.holders k)
    rw [Desk.holders_putWorld, Desk.holders_added, hprovider, Option.map_some, Option.getD_some,
      Nat.add_comm (d.holders k)]
    exact hframe.phased

end Creates

namespace SessionId

/-- A session answers every lookup on one desk as on the other. -/
structure SameAnswers (host : Host) (d d' : Desk) (s : SessionId) : Prop where
  address : ∀ name, ((s.address name).run host d').1 = ((s.address name).run host d).1
  addressFor : ∀ p name,
    ((s.addressFor p name).run host d').1 = ((s.addressFor p name).run host d).1
  platforms : (s.platforms.run host d').1 = (s.platforms.run host d).1
  platformText : ∀ p parameter,
    ((s.platformText p parameter).run host d').1 = ((s.platformText p parameter).run host d).1
  platformCapabilities : ∀ p,
    ((s.platformCapabilities p).run host d').1 = ((s.platformCapabilities p).run host d).1

/-- What a session answers depends on its provider alone. -/
theorem sameAnswers_putWorld (host : Host) (d : Desk) (w : World) (s : SessionId) :
    s.SameAnswers host d (Desk.putWorld w d) := by
  have hprovider : (Desk.putWorld w d).provider? s = d.provider? s := rfl
  cases h : d.provider? s with
  | none =>
    have hinactive : d.isActive s = false := by simp [Desk.isActive, h]
    have hbefore := inert hinactive host
    have hafter := inert (d := Desk.putWorld w d) hinactive host
    constructor
    case address => simp [hbefore.address, hafter.address]
    case addressFor => simp [hbefore.addressFor, hafter.addressFor]
    case platforms => simp [hbefore.platforms, hafter.platforms]
    case platformText => simp [hbefore.platformText, hafter.platformText]
    case platformCapabilities => simp [hbefore.platformCapabilities, hafter.platformCapabilities]
  | some provider =>
    rw [h] at hprovider
    constructor
    case address =>
      intro name
      simpa [address, provider?, h, hprovider] using provider.address_steady name host _ _
    case addressFor =>
      intro p name
      simpa [addressFor, provider?, h, hprovider] using provider.addressFor_steady p name host _ _
    case platforms =>
      have hsteady : (do platformIds (← provider.entryOf .platformIds)).Steady :=
        (provider.entryOf_steady _).bind fun entry => platformIds_steady entry
      simp only [platforms, entryOf, address, provider?, Action.run_bind, Action.run_get,
        Action.run_pure, h, hprovider]
      exact hsteady host _ _
    case platformText =>
      intro p parameter
      have hsteady :
          (do OpenCL.platformText (← provider.entryOf .platformInfo) p parameter).Steady :=
        (provider.entryOf_steady _).bind fun entry => platformText_steady entry p parameter
      simp only [platformText, entryOf, address, provider?, Action.run_bind, Action.run_get,
        Action.run_pure, h, hprovider]
      exact hsteady host _ _
    case platformCapabilities =>
      intro p
      have hsteady :=
        Capabilities.ofPlatform_steady provider p host (Desk.putWorld w d).world d.world
      simpa [platformCapabilities, Attempt.run_bind, provider?, h, hprovider] using hsteady

end SessionId

/-- Loading an OpenCL library asks the loader at least once, for the last name if not before. -/
theorem load_tries (host : Host) (name : String) (hname : name ≠ "") (w : World) :
    Tries w ((SharedLibrary.load name libraryFallbacks).run host w).2 := by
  have hlast : ∃ file, LibraryName.native? "libOpenCL.so.1" = .ok file := ⟨_, rfl⟩
  rw [SharedLibrary.load, if_neg hname, libraryFallbacks, SharedLibrary.openFirst,
    Attempt.run_bind, Attempt.run_liftM]
  have hfirst := SharedLibrary.openCandidate_tries host name (LibraryName.primary name) w
  have hacting := SharedLibrary.openCandidate_acting host (.library 0) name
    (LibraryName.primary name) w
  rcases hrun : (SharedLibrary.openCandidate name (LibraryName.primary name)).run host w with
    ⟨fault | l, v⟩ <;> rw [hrun] at hfirst hacting
  · have hsecond := SharedLibrary.openCandidate_tries host name "libOpenCL.so.1" v (.inl hlast)
    have htries := hacting.continues.tries hsecond
    dsimp only
    rw [SharedLibrary.openFirst, Attempt.run_bind, Attempt.run_liftM]
    rcases hrun' : (SharedLibrary.openCandidate name "libOpenCL.so.1").run host v with
      ⟨fault' | l, v'⟩ <;> rw [hrun'] at htries
    · exact htries
    · exact htries
  · exact hfirst (.inr ⟨l, rfl⟩)

theorem SharedLibrary.openFirst_fatal {name candidate : String} {candidates : List String}
    {w : World} {failure : Failure}
    (h : ((SharedLibrary.openFirst name candidate candidates).run host w).1 = .error failure) :
    failure.isFatal = true := by
  induction candidates generalizing candidate w with
  | nil =>
    rw [SharedLibrary.openFirst, Attempt.run_bind_fst, Attempt.run_liftM] at h
    rcases hrun : (SharedLibrary.openCandidate name candidate).run host w with ⟨fault | l, v⟩
    · simp only [hrun, Attempt.run_throw, Except.error.injEq] at h
      simp [← h, Failure.isFatal]
    · simp [hrun] at h
  | cons next candidates ih =>
    rw [SharedLibrary.openFirst, Attempt.run_bind_fst, Attempt.run_liftM] at h
    rcases hrun : (SharedLibrary.openCandidate name candidate).run host w with ⟨fault | l, v⟩
    · simp only [hrun] at h
      exact ih h
    · simp [hrun] at h

theorem Capabilities.ofLibrary_fatal {provider : Provider} {w : World} {failure : Failure}
    (h : ((Capabilities.ofLibrary provider).run host w).1 = .error failure) :
    failure.isFatal = true := by
  have htables : ∀ (features : List Feature) (w : World),
      ((libraryTables provider features).run host w).1 = .error failure →
        failure.isFatal = true := by
    intro features
    induction features with
    | nil =>
      intro w h
      cases h
    | cons feature features ih =>
      intro w h
      rw [libraryTables, Attempt.run_bind_fst, Attempt.run_liftM] at h
      rcases hrun : (feature.resolve provider.address).run host w with ⟨missing | table, v⟩
      · simp only [hrun, Attempt.run_ite] at h
        split at h
        · simp only [Attempt.run_throw, Except.error.injEq] at h
          simp [← h, Failure.isFatal]
        · exact ih _ h
      · simp only [hrun, Attempt.run_bind_fst] at h
        cases hrest : ((libraryTables provider features).run host v).1 with
        | error f => exact ih v (hrest.trans (by simpa [hrest] using h))
        | ok tables => simp [hrest] at h
  rw [ofLibrary, Attempt.run_bind_fst] at h
  cases hall : ((libraryTables provider Feature.all).run host w).1 with
  | error f => exact htables Feature.all w (hall.trans (by simpa [hall] using h))
  | ok tables => simp [hall] at h

namespace OwnerId

theorem install_fatal {provider : Provider} {strategy : Option Strategy} {failure : Failure}
    (h : ((o.install provider strategy).run host d).1 = .error failure) :
    failure.isFatal = true := by
  have hanswer := releasedOnFailure_answer host provider d.world (Capabilities.ofLibrary provider)
  rw [install, Attempt.run_bind_fst, Desk.run_liftAttempt] at h
  rcases hrun : (provider.releasedOnFailure (Capabilities.ofLibrary provider)).run host d.world
    with ⟨f | c, w⟩ <;> rw [hrun] at hanswer h
  · exact Capabilities.ofLibrary_fatal (hanswer.symm.trans (by simpa using h))
  · change (Except.ok d.nextSession : Except Failure SessionId) = .error failure at h
    cases h

/-- Once a name has been tried, a failure leaves the library unusable. -/
theorem loadSession_fatal {name : String} (hname : name ≠ "") {failure : Failure}
    (h : ((o.loadSession name).run host d).1 = .error failure) : failure.isFatal = true := by
  rw [loadSession, Attempt.run_bind_fst, Desk.run_liftAttempt] at h
  rcases hload : (SharedLibrary.load name libraryFallbacks).run host d.world with ⟨f | l, w⟩
  · simp only [hload, Except.error.injEq] at h
    subst h
    rw [SharedLibrary.load, if_neg hname] at hload
    exact SharedLibrary.openFirst_fatal (congrArg Prod.fst hload)
  · have hworld : (Desk.putWorld w d).world = w := rfl
    simp only [hload, Attempt.run_bind_fst, Desk.run_liftAttempt, hworld] at h
    rcases hresolver : (resolverFor (.shared l)).run host w with ⟨f | r, w'⟩
    · simp only [hresolver, Except.error.injEq] at h
      subst h
      exact resolverFor_fatal host (.shared l) w (congrArg Prod.fst hresolver)
    · simp only [hresolver] at h
      exact install_fatal h

/-- Loading a session asks the loader, whether it succeeds or not. -/
theorem loadSession_tries {name : String} (hname : name ≠ "") (hfree : d.held o = none) :
    Tries d.world ((o.loadSession name).run host d).2.world := by
  have hload := load_tries host name hname d.world
  rw [loadSession, Attempt.run_bind, Desk.run_liftAttempt]
  rcases hrun : (SharedLibrary.load name libraryFallbacks).run host d.world with ⟨f | l, w⟩ <;>
    rw [hrun] at hload
  · exact hload
  · have hworld : (Desk.putWorld w d).world = w := rfl
    have hresolver : (resolverFor (.shared l)).Builds host (.library 0)
        ((Provider.shared l).holds (.library 0))
        fun r => (Provider.resolver r (.shared l)).holds (.library 0) := 
      resolverFor_builds (Serial.isRecorded_library 0) _
    replace hresolver := hresolver w
    dsimp only
    rw [Attempt.run_bind, Desk.run_liftAttempt, hworld]
    rcases hrun' : (resolverFor (.shared l)).run host w with ⟨f | r, w'⟩ <;>
      simp only [hrun'] at hresolver
    · exact hload.continues hresolver.continues
    · have hinstall : Creates host _ o (Desk.putWorld w' d) _ :=
        install_creates (.resolver r (.shared l)) (some r.strategy) hfree
      exact (hload.continues hresolver.continues).continues hinstall.continues

end OwnerId

/-- A call that creates a session for an owner. -/
inductive Creation where
  | create (config : Config)
  | fromLibrary (name : String)
  | fromProvider (provider : Provider)
  | getOrCreate (config : Config)

namespace Creation

def attempt (o : OwnerId) : Creation → Attempt Desk SessionId
  | create config => o.create config
  | fromLibrary name => o.createFromLibrary name
  | fromProvider provider => o.createFromProvider provider
  | getOrCreate config => o.getOrCreate config

/-- The provider that the call is given. The other calls load a library. -/
def provider? : Creation → Option Provider
  | fromProvider provider => some provider
  | create _ | fromLibrary _ | getOrCreate _ => none

/-- What is wrong with a name before it is tried. -/
def nameFault? (name : String) : Option Failure :=
  if name = "" then some (.invalidArgument "empty library name") else none

/-- The failure of a call that is refused before anything is tried. -/
def refusal? (o : OwnerId) (d : Desk) : Creation → Option Failure
  | create config =>
    if (d.held o).isSome then some .alreadyStarted else nameFault? config.openCLLibrary
  | fromLibrary name => if (d.held o).isSome then some .alreadyStarted else nameFault? name
  | fromProvider _ => if (d.held o).isSome then some .alreadyStarted else none
  | getOrCreate config =>
    if (d.held o).isSome then none
    else if config.explicitStart then some .notStarted
    else nameFault? config.openCLLibrary

theorem attempt_creates (call : Creation) (host : Host) (d : Desk) (o : OwnerId) :
    Creates host call.provider? o d ((call.attempt o).run host d) := by
  cases call with
  | create config => exact o.createFromLibrary_creates _
  | fromLibrary name => exact o.createFromLibrary_creates name
  | fromProvider provider => exact o.createFromProvider_creates provider
  | getOrCreate config => exact o.getOrCreate_creates config

/-- A call that is refused does nothing at all. -/
theorem run_refused {call : Creation} (hload : call.provider? = none) {failure : Failure}
    (h : call.refusal? o d = some failure) (host : Host) :
    (call.attempt o).run host d = (.error failure, d) ∧ failure.isFatal = false := by
  have hname : ∀ name, nameFault? name = some failure →
      (o.loadSession name).run host d = (.error failure, d) ∧ failure.isFatal = false := by
    intro name hfault
    unfold nameFault? at hfault
    split at hfault
    · cases hfault
      subst name
      exact ⟨rfl, rfl⟩
    · cases hfault
  have hlibrary : ∀ name, (if (d.held o).isSome then some .alreadyStarted else nameFault? name) =
      some failure → (o.createFromLibrary name).run host d = (.error failure, d) ∧
        failure.isFatal = false := by
    intro name hrefused
    cases ho : d.held o with
    | some s =>
      simp only [ho, Option.isSome_some, if_true, Option.some.injEq] at hrefused
      subst hrefused
      simp [OwnerId.createFromLibrary, OwnerId.session?, Attempt.run_bind, ho, Failure.isFatal]
    | none =>
      have hrun : (o.createFromLibrary name).run host d = (o.loadSession name).run host d := by
        simp [OwnerId.createFromLibrary, OwnerId.session?, Attempt.run_bind, ho]
      rw [hrun]
      exact hname name (by simpa [ho] using hrefused)
  cases call with
  | fromProvider provider => cases hload
  | create config => exact hlibrary _ h
  | fromLibrary name => exact hlibrary name h
  | getOrCreate config =>
    cases ho : d.held o with
    | some s => simp [refusal?, ho] at h
    | none =>
      cases hexplicit : config.explicitStart with
      | true =>
        simp only [refusal?, ho, hexplicit, Option.isSome_none, Bool.false_eq_true, if_false,
          if_true, Option.some.injEq] at h
        subst h
        simp [attempt, OwnerId.getOrCreate, OwnerId.session?, Attempt.run_bind, ho, hexplicit,
          Failure.isFatal]
      | false =>
        have hrun : (attempt o (getOrCreate config)).run host d =
            (o.loadSession config.openCLLibrary).run host d := by
          simp [attempt, OwnerId.getOrCreate, OwnerId.session?, Attempt.run_bind, ho, hexplicit]
        rw [hrun]
        exact hname _ (by simpa [refusal?, ho, hexplicit] using h)

/-- A call that is not refused finds a session or loads one. -/
theorem run_not_refused {call : Creation} (hload : call.provider? = none)
    (h : call.refusal? o d = none) (host : Host) :
    (∃ s, (call.attempt o).run host d = (.ok s, d)) ∨
      ∃ name, name ≠ "" ∧ d.held o = none ∧
        (call.attempt o).run host d = (o.loadSession name).run host d := by
  have hname : ∀ name, nameFault? name = none → name ≠ "" := by
    intro name hfault he
    simp [nameFault?, he] at hfault
  have hlibrary : ∀ name, (if (d.held o).isSome then some .alreadyStarted else nameFault? name) =
      none → name ≠ "" ∧ d.held o = none ∧
        (o.createFromLibrary name).run host d = (o.loadSession name).run host d := by
    intro name hrefused
    cases ho : d.held o with
    | some s => simp [ho] at hrefused
    | none =>
      refine ⟨hname name (by simpa [ho] using hrefused), rfl, ?_⟩
      simp [OwnerId.createFromLibrary, OwnerId.session?, Attempt.run_bind, ho]
  cases call with
  | fromProvider provider => cases hload
  | create config => exact .inr ⟨_, hlibrary _ h⟩
  | fromLibrary name => exact .inr ⟨name, hlibrary name h⟩
  | getOrCreate config =>
    cases ho : d.held o with
    | some s =>
      refine .inl ⟨s, ?_⟩
      simp [attempt, OwnerId.getOrCreate, OwnerId.session?, Attempt.run_bind, ho]
    | none =>
      cases hexplicit : config.explicitStart with
      | true => simp [refusal?, ho, hexplicit] at h
      | false =>
        refine .inr ⟨config.openCLLibrary, hname _ (by simpa [refusal?, ho, hexplicit] using h),
          rfl, ?_⟩
        simp [attempt, OwnerId.getOrCreate, OwnerId.session?, Attempt.run_bind, ho, hexplicit]

/-- A failed call was refused before it did anything, or it failed fatally after a try. -/
theorem refused_or_fatal {call : Creation} (hload : call.provider? = none) {failure : Failure}
    (h : (call.attempt o).run host d = (.error failure, d')) :
    (call.refusal? o d = some failure ∧ failure.isFatal = false ∧ d' = d) ∨
      (call.refusal? o d = none ∧ failure.isFatal = true ∧ Tries d.world d'.world) := by
  cases hrefusal : call.refusal? o d with
  | some f =>
    obtain ⟨hrun, hfatal⟩ := run_refused hload hrefusal host
    rw [h] at hrun
    cases hrun
    exact .inl ⟨rfl, hfatal, rfl⟩
  | none =>
    right
    rcases run_not_refused hload hrefusal host with ⟨s, hrun⟩ | ⟨name, hname, hfree, hrun⟩
    · rw [h] at hrun
      cases hrun
    · rw [h] at hrun
      have htries : Tries d.world ((o.loadSession name).run host d).2.world :=
        o.loadSession_tries hname hfree
      rw [← hrun] at htries
      exact ⟨rfl, o.loadSession_fatal hname (congrArg Prod.fst hrun.symm), htries⟩

/-- A failed call changes nothing but the world, and there it ends what it opens and is given. -/
theorem failed_conduct {call : Creation} {failure : Failure}
    (h : (call.attempt o).run host d = (.error failure, d')) :
    ∃ (w : World) (es : List Event), d' = Desk.putWorld w d ∧
      (∀ k : Serial, k.IsRecorded → Conduct host k (givenHolds k call.provider?) 0 d.world w es) ∧
      (call.provider?.isSome → w.nextNumber = d.world.nextNumber) := by
  have hcreates := call.attempt_creates host d o
  rw [h] at hcreates
  cases hcreates with
  | @failed _ w hreleased hnumber =>
    obtain ⟨es, hconduct⟩ := (hreleased _ (Serial.isRecorded_library 0)).conduct
    refine ⟨w, es, rfl, fun k hk => ?_, hnumber⟩
    obtain ⟨es', hconduct'⟩ := (hreleased k hk).conduct
    rwa [hconduct.events_eq hconduct']

/-- What is opened or given is ended, and what is neither is left as it is. -/
theorem lives_of_conduct {es : List Event} {w : World}
    (h : Conduct host k (givenHolds k given) 0 d.world w es)
    (hnumber : given.isSome → w.nextNumber = d.world.nextNumber) :
    ((∃ e ∈ es, e.opens? = some k) → Life.after k .unopened es = .ended) ∧
      (∀ p, given = some p → p.root = some k → Life.after k .live es = .ended) ∧
      ((∀ e ∈ es, e.opens? ≠ some k) → (∀ p, given = some p → p.root ≠ some k) →
        Life.after k .live es = .live) := by
  -- A call that is given a provider opens nothing.
  have hopens : given.isSome → ∀ e ∈ es, e.opens? ≠ some k := by
    intro hsome e he hopen
    have hbounds := h.opened e he hopen
    have hsame := hnumber hsome
    omega
  refine ⟨?_, ?_, ?_⟩
  · intro hopened
    have hnone : given = none := by
      cases given with
      | none => rfl
      | some p =>
        obtain ⟨e, he, hopen⟩ := hopened
        exact (hopens rfl e he hopen).elim
    have hlife := h.life .unopened 0 (by simp) (by simp [hnone, Life.holders]) fun _ _ _ => rfl
    exact Life.eq_ended hlife.1 hlife.2 (Life.after_opened hopened)
  · rintro p rfl hroot
    have hlife := h.life .live 0 (by simp) (by simp [Life.holders, Provider.holds, hroot])
      fun e he hopen => (hopens rfl e he hopen).elim
    exact Life.eq_ended hlife.1 hlife.2 (Life.after_ne_unopened es (by simp))
  · intro hnever hother
    have hnothing : givenHolds k given = 0 := by
      cases given with
      | none => rfl
      | some p => simp [Provider.holds, hother p rfl]
    have hlife := h.life .live 1 (by simp) (by simp [hnothing, Life.holders])
      fun e he hopen => (hnever e he hopen).elim
    exact Life.holders_pos.mp (by omega)

/-- What is left of a creation that failed: nothing but the history of it. -/
structure Undone (host : Host) (d : Desk) (o : OwnerId) (call : Creation) (failure : Failure)
    (d' : Desk) : Prop where
  held : d'.held = d.held
  sessions : d'.sessions = d.sessions
  answers : ∀ s : SessionId, s.SameAnswers host d d'
  /-- Whatever was opened or handed over has been ended, and nothing else has. -/
  released : ∃ es : List Event, d'.world.history = es.reverse ++ d.world.history ∧
    (∀ k : Serial, k.IsRecorded →
      ((∃ e ∈ es, e.opens? = some k) → Life.after k .unopened es = .ended) ∧
      (∀ p, call.provider? = some p → p.root = some k → Life.after k .live es = .ended) ∧
      ((∀ e ∈ es, e.opens? ≠ some k) → (∀ p, call.provider? = some p → p.root ≠ some k) →
        Life.after k .live es = .live)) ∧
    (call.provider? = none → (failure.isFatal = true ↔ ∃ file k, .opened file k ∈ es))
  /-- What is refused fails as it should, without doing anything; what is not, fails fatally. -/
  refused : call.provider? = none →
    (failure.isFatal = false ↔ (call.refusal? o d).isSome) ∧
    ∀ f, call.refusal? o d = some f → failure = f ∧ d' = d

/-- A failed creation leaves owners and sessions as they were, with what it opened or was handed
released. A creation that is to be refused fails with just that refusal, and tries nothing. -/
theorem undone_of_failure (call : Creation) (host : Host) (d : Desk) (o : OwnerId) :
    (∀ failure d', (call.attempt o).run host d = (.error failure, d') →
      call.Undone host d o failure d') ∧
    (call.provider? = none → ∀ refusal, call.refusal? o d = some refusal →
      (call.attempt o).run host d = (.error refusal, d) ∧ refusal.isFatal = false) := by
  refine ⟨fun failure d' h => ?_, fun hload refusal hrefusal => run_refused hload hrefusal host⟩
  obtain ⟨w, es, rfl, hconduct, hnumber⟩ := failed_conduct h
  have hhistory := (hconduct _ (Serial.isRecorded_library 0)).history
  constructor
  case held => rfl
  case sessions => rfl
  case answers => exact fun s => s.sameAnswers_putWorld host d w
  case released =>
    refine ⟨es, hhistory, fun k hk => lives_of_conduct (hconduct k hk) hnumber, fun hload => ?_⟩
    rcases refused_or_fatal hload h with ⟨-, hfatal, hsame⟩ | ⟨-, hfatal, es', hhistory', htried⟩
    · have hworld : w = d.world := congrArg Desk.world hsame
      have hnothing : es = [] := by simpa [hworld] using hhistory
      simp [hfatal, hnothing]
    · have hsame : es = es' :=
        List.reverse_inj.mp (List.append_cancel_right (hhistory.symm.trans hhistory'))
      simp only [hfatal, true_iff, hsame]
      exact htried
  case refused =>
    intro hload
    rcases refused_or_fatal hload h with ⟨hrefusal, hfatal, hsame⟩ | ⟨hrefusal, hfatal, -⟩
    · refine ⟨by simp [hrefusal, hfatal], fun f hf => ?_⟩
      rw [hrefusal] at hf
      exact ⟨Option.some.inj hf, hsame⟩
    · refine ⟨by simp [hrefusal, hfatal], fun f hf => ?_⟩
      rw [hrefusal] at hf
      cases hf

/-- A provider on top of a library that exports nothing is released again. -/
theorem undone_without_exports :
    let host : Host := .ofLists [{}] []
    let d : Desk := .initial (.initial host none)
    let call : Creation := .fromProvider (.supplied { number := 0, library := 0, isFull := true })
    ∃ d', (call.attempt 0).run host d = (.error (.missingCoreFunction "clGetPlatformIDs"), d') ∧
      call.Undone host d 0 (.missingCoreFunction "clGetPlatformIDs") d' := by
  intro host d call
  have hrun : (call.attempt 0).run host d = (.error (.missingCoreFunction "clGetPlatformIDs"),
      ((call.attempt 0).run host d).2) := rfl
  exact ⟨_, hrun, (undone_of_failure call host d 0).1 _ _ hrun⟩

end Creation

end NativeBinding.OpenCL
