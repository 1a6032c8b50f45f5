import NativeBinding.Proofs.Installation
import NativeBinding.Proofs.Runs

/-!
Where the sessions of a run come from. No command changes an active session, and one that is new
has the capabilities that its provider showed on the host of that very command.
-/
namespace NativeBinding.Scenario

open OpenCL Bench

variable {host : Host} {b b' b'' : Bench}

/-- The sessions that are active on the second bench are on the first one already. -/
def Subsists (b b' : Bench) : Prop :=
  ∀ s x provider, b'.desk.sessions s = some x → x.provider = some provider →
    b.desk.sessions s = some x

instance : IsPreorder Bench Subsists where
  refl _ _ _ _ hx _ := hx
  trans := by
    intro b b' b'' h h' s x provider hx hprovider
    exact h s x provider (h' s x provider hx hprovider) hprovider

theorem Subsists.of_eq (h : b'.desk.sessions = b.desk.sessions) : Subsists b b' := by
  intro s x _ hx _
  rw [← h]
  exact hx

/-- The same, but for sessions whose capabilities were read off their provider on this host. -/
def Grows (host : Host) (b b' : Bench) : Prop :=
  ∀ s x provider, b'.desk.sessions s = some x → x.provider = some provider →
    b.desk.sessions s = some x ∨ x.library.IsReadOff host provider

theorem Subsists.grows (h : Subsists b b') (host : Host) : Grows host b b' :=
  fun s x provider hx hprovider => .inl (h s x provider hx hprovider)

theorem Subsists.then_grows (h : Subsists b b') (h' : Grows host b' b'') : Grows host b b'' := by
  intro s x provider hx hprovider
  rcases h' s x provider hx hprovider with hbefore | hnew
  · exact .inl (h s x provider hbefore hprovider)
  · exact .inr hnew

/-! Steps that leave the sessions as they are. -/

theorem liftWorld_subsists {α : Type} (x : Action World α) :
    (liftM x : Action Bench α).Within Subsists :=
  fun _ _ => .of_eq rfl

theorem liftDesk_subsists {α : Type} {s : SessionId} {x : Action Desk α}
    (h : ∀ host d, s.Consults d (x.run host d).2) :
    (liftM x : Action Bench α).Within Subsists := by
  intro host b
  obtain ⟨w, hd, -⟩ := h host b.desk
  have hsessions : (x.run host b.desk).2.sessions = b.desk.sessions := by
    rw [hd]
    rfl
  exact .of_eq hsessions

theorem withObject_subsists {α : Type} {object : Option α} {x : α → Action Bench Answer}
    (h : ∀ a, (x a).Within Subsists) : (withObject object x).Within Subsists := by
  cases object with
  | none => exact .pure _
  | some a => exact h a

theorem destroy_subsists (o : OwnerId) :
    (liftM o.destroy : Action Bench Unit).Within Subsists := by
  intro host b s x provider hx hprovider
  have hvacated : (b.desk.vacated o).sessions s = some x := by
    rw [run_liftDesk, OwnerId.run_destroy] at hx
    exact hx
  cases ho : b.desk.held o with
  | none => simpa [Desk.vacated, ho] using hvacated
  | some t =>
    rw [Desk.sessions_vacated ho] at hvacated
    split at hvacated
    · obtain ⟨y, -, rfl⟩ := Option.map_eq_some_iff.mp hvacated
      cases hprovider
    · exact hvacated

theorem dropOld_subsists {α : Type} {drop : α → Action Desk Unit}
    (h : ∀ a, (liftM (drop a) : Action Bench Unit).Within Subsists) (old : Option α) :
    (dropOld drop old).Within Subsists := by
  cases old with
  | none => exact .pure _
  | some a => exact h a

theorem take_subsists (source : Source) : source.take.Within Subsists := by
  cases source with
  | supplied k => exact fun _ _ => .of_eq rfl
  | plain k => exact fun _ _ => .of_eq rfl
  | named name => exact fun _ _ => .of_eq rfl

theorem keepProvider_subsists (name : String) (held : Held) :
    (keepProvider name held).Within Subsists := by
  refine Action.Within.get.bind fun b => Action.Within.bind (fun _ _ => .of_eq rfl) fun _ => ?_
  exact dropOld_subsists (fun held : Held => liftWorld_subsists held.provider.drop) _

theorem ProviderCommand.perform_subsists (c : ProviderCommand) : c.perform.Within Subsists := by
  have hprovider : ∀ (name : String) {x : Provider → Action Bench Answer},
      (∀ p, (x p).Within Subsists) → (withProvider name x).Within Subsists := fun _ _ h =>
    Action.Within.get.bind fun _ => withObject_subsists fun held => h held.provider
  have hentry : ∀ (provider : Option String) (f : NativeFunction)
      {x : Option (Entry f) → Action Bench Answer}, (∀ e, (x e).Within Subsists) →
        (withEntry provider f x).Within Subsists := by
    intro provider f x h
    cases provider with
    | none => exact h none
    | some name =>
      exact hprovider name fun p => (liftWorld_subsists (p.entryOf f)).bind fun e => h e
  cases c with
  | load name fallbacks as =>
    refine (liftWorld_subsists _).bind fun outcome => ?_
    cases outcome with
    | error failure => exact .pure _
    | ok library => exact (keepProvider_subsists _ _).bind fun _ => .pure _
  | resolver source as =>
    refine (take_subsists source).bind fun _ => withObject_subsists fun held => ?_
    refine (liftWorld_subsists _).bind fun outcome => ?_
    cases outcome with
    | error failure => exact .pure _
    | ok r => exact (keepProvider_subsists _ _).bind fun _ => .pure _
  | keep source isOpaque as =>
    exact (take_subsists source).bind fun _ => withObject_subsists fun held =>
      (keepProvider_subsists _ _).bind fun _ => .pure _
  | state name => exact Action.Within.get.bind fun _ => withObject_subsists fun _ => .pure _
  | address provider name =>
    exact hprovider _ fun p => (liftWorld_subsists _).bind fun _ => .pure _
  | addressFor provider platform name =>
    exact hprovider _ fun p => (liftWorld_subsists _).bind fun _ => .pure _
  | require provider name =>
    exact hprovider _ fun p => (liftWorld_subsists _).bind fun _ => .pure _
  | release name =>
    exact Action.Within.get.bind fun _ => withObject_subsists fun held =>
      (liftWorld_subsists _).bind fun _ =>
        Action.Within.bind (fun _ _ => .of_eq rfl) fun _ => .pure _
  | drop name =>
    exact (take_subsists _).bind fun _ => withObject_subsists fun held =>
      (liftWorld_subsists _).bind fun _ => .pure _
  | libraryCapabilities provider =>
    exact hprovider _ fun p => (liftWorld_subsists _).bind fun _ => .pure _
  | platformCapabilities provider platform =>
    exact hprovider _ fun p => (liftWorld_subsists _).bind fun _ => .pure _
  | platformCount provider =>
    exact hentry _ _ fun e => (liftWorld_subsists _).bind fun _ => .pure _
  | platformIds provider =>
    exact hentry _ _ fun e => (liftWorld_subsists _).bind fun _ => .pure _
  | platformText provider platform parameter =>
    exact hentry _ _ fun e => (liftWorld_subsists _).bind fun _ => .pure _

theorem keepAudio_subsists (as : String) (x : Attempt World OpenAL.AudioLibrary) :
    (keepAudio as x).Within Subsists := by
  refine (liftWorld_subsists _).bind fun outcome => ?_
  cases outcome with
  | error failure => exact .pure _
  | ok a =>
    refine Action.Within.get.bind fun b => Action.Within.bind (fun _ _ => .of_eq rfl) fun _ => ?_
    exact (dropOld_subsists (fun old : OpenAL.AudioLibrary => liftWorld_subsists old.drop) _).bind
      fun _ => .pure _

theorem AudioCommand.perform_subsists (c : AudioCommand) : c.perform.Within Subsists := by
  have haudio : ∀ (name : String) {x : OpenAL.AudioLibrary → Action Bench Answer},
      (∀ a, (x a).Within Subsists) → (withAudio name x).Within Subsists := fun _ _ h =>
    Action.Within.get.bind fun _ => withObject_subsists h
  cases c with
  | ofProvider source as =>
    exact (take_subsists source).bind fun _ => withObject_subsists fun _ => keepAudio_subsists _ _
  | load config as => exact keepAudio_subsists _ _
  | check audio => exact haudio _ fun a => (liftWorld_subsists _).bind fun _ => .pure _
  | checkDevice audio device =>
    exact haudio _ fun a => (liftWorld_subsists _).bind fun _ => .pure _
  | errorText audio code => exact haudio _ fun a => (liftWorld_subsists _).bind fun _ => .pure _
  | deviceErrorText audio device code =>
    exact haudio _ fun a => (liftWorld_subsists _).bind fun _ => .pure _
  | drop audio =>
    exact haudio _ fun a => Action.Within.bind (fun _ _ => .of_eq rfl) fun _ =>
      (liftWorld_subsists _).bind fun _ => .pure _

theorem keepHeadset_subsists (as : String) (x : Attempt World LibOVR.HeadsetRuntime) :
    (keepHeadset as x).Within Subsists := by
  refine (liftWorld_subsists _).bind fun outcome => ?_
  cases outcome with
  | error failure => exact .pure _
  | ok r =>
    refine Action.Within.get.bind fun b => Action.Within.bind (fun _ _ => .of_eq rfl) fun _ => ?_
    exact (dropOld_subsists (fun old : LibOVR.HeadsetRuntime => liftWorld_subsists old.drop) _).bind
      fun _ => .pure _

theorem HeadsetCommand.perform_subsists (c : HeadsetCommand) : c.perform.Within Subsists := by
  have hheadset : ∀ (name : String) {x : LibOVR.HeadsetRuntime → Action Bench Answer},
      (∀ r, (x r).Within Subsists) → (withHeadset name x).Within Subsists := fun _ _ h =>
    Action.Within.get.bind fun _ => withObject_subsists h
  cases c with
  | ofProvider source as =>
    exact (take_subsists source).bind fun _ => withObject_subsists fun _ =>
      keepHeadset_subsists _ _
  | load config as => exact keepHeadset_subsists _ _
  | start headset flags =>
    refine hheadset _ fun r => (liftWorld_subsists _).bind fun outcome => ?_
    cases outcome with
    | error failure => exact .pure _
    | ok started => exact Action.Within.bind (fun _ _ => .of_eq rfl) fun _ => .pure _
  | version headset => exact hheadset _ fun r => (liftWorld_subsists _).bind fun _ => .pure _
  | state headset => exact hheadset _ fun r => .pure _
  | shutdown headset =>
    exact hheadset _ fun r => (liftWorld_subsists _).bind fun _ =>
      Action.Within.bind (fun _ _ => .of_eq rfl) fun _ => .pure _
  | drop headset =>
    exact hheadset _ fun r => Action.Within.bind (fun _ _ => .of_eq rfl) fun _ =>
      (liftWorld_subsists _).bind fun _ => .pure _

theorem LogCommand.perform_subsists (c : LogCommand) : c.perform.Within Subsists := by
  cases c with
  | install handler => exact (liftWorld_subsists _).bind fun _ => .pure _
  | clear => exact (liftWorld_subsists _).bind fun _ => .pure _
  | message level text => exact (liftWorld_subsists _).bind fun _ => .pure _

/-! Commands that make sessions. -/

/-- What a call adds to the desk has the capabilities of the provider that it got to. -/
theorem attempt_grows (call : Creation) (host : Host) (d : Desk) (o : OwnerId) {s : SessionId}
    {x : Session} {provider : Provider}
    (hx : ((call.attempt o).run host d).2.sessions s = some x)
    (hprovider : x.provider = some provider) :
    d.sessions s = some x ∨ x.library.IsReadOff host provider := by
  rcases call.reaches_or_sessions_eq host d o with ⟨reached, hreaches⟩ | hsame
  · obtain ⟨strategy, w, hrun⟩ := Creation.run_of_reaches hreaches
    obtain ⟨w', hinstall⟩ := o.install_run reached strategy host (Desk.putWorld w d)
    rw [hrun, hinstall] at hx
    cases hmissing : Feature.core10.missing? (reached.answer host) with
    | some missing =>
      rw [hmissing] at hx
      exact .inl hx
    | none =>
      rw [hmissing] at hx
      by_cases hnew : s = d.nextSession
      · right
        subst hnew
        obtain rfl : o.sessionAround host reached strategy = x := by
          simpa [Desk.putWorld, Desk.added] using hx
        obtain rfl : reached = provider := Option.some.inj hprovider
        exact ⟨hmissing, rfl⟩
      · left
        simpa [Desk.putWorld, Desk.added, assign_other _ _ hnew] using hx
  · rw [hsame] at hx
    exact .inl hx

theorem run_answerCreation (as : Option String) (x : Attempt Desk SessionId) (host : Host)
    (b : Bench) : ((answerCreation as x).run host b).2.desk = (x.run host b.desk).2 := by
  rcases hrun : x.run host b.desk with ⟨outcome, d⟩
  rw [answerCreation, Action.run_bind, run_liftDesk, Attempt.run_outcome, hrun]
  cases outcome with
  | error failure => rfl
  | ok s =>
    obtain ⟨handles, hkeep, -⟩ := run_keepHandle as s host (putDesk d b)
    simp only [answerSession, Action.run_bind, Action.run_get, Action.run_pure, hkeep]
    rfl

theorem answerCreation_grows (as : Option String) (call : Creation) (o : OwnerId) (host : Host)
    (b : Bench) : Grows host b ((answerCreation as (call.attempt o)).run host b).2 := by
  intro s x provider hx hprovider
  rw [run_answerCreation] at hx
  exact attempt_grows call host b.desk o hx hprovider

theorem withOwner_grows {name : String} {x : OwnerId → Action Bench Answer}
    (h : ∀ o, Grows host b ((x o).run host b).2) :
    Grows host b ((withOwner name x).run host b).2 := by
  simp only [withOwner, Action.run_bind, Action.run_get]
  cases b.owner? name with
  | none => exact Subsists.grows (Std.Refl.refl b) host
  | some o => exact h o

theorem newOwner_subsists (name : String) :
    (SessionCommand.newOwner name).perform.Within Subsists := by
  refine Action.Within.bind (fun _ _ => .of_eq rfl) fun o => Action.Within.get.bind fun b => ?_
  refine Action.Within.bind (fun _ _ => .of_eq rfl) fun _ => ?_
  exact (dropOld_subsists destroy_subsists _).bind fun _ => .pure _

theorem keepHandle_subsists (as : Option String) (s : SessionId) :
    (keepHandle as s).Within Subsists := by
  cases as with
  | none => exact .pure _
  | some name => exact fun _ _ => .of_eq rfl

theorem session?_subsists (o : OwnerId) :
    (liftM o.session? : Action Bench (Option SessionId)).Within Subsists :=
  fun _ _ => .of_eq rfl

/-- Only a creation adds a session. -/
theorem SessionCommand.perform_grows (c : SessionCommand) (host : Host) (b : Bench) :
    Grows host b (c.perform.run host b).2 := by
  have howner : ∀ (name : String) {x : OwnerId → Action Bench Answer},
      (∀ o, (x o).Within Subsists) → (withOwner name x).Within Subsists := fun _ _ h =>
    Action.Within.get.bind fun _ => withObject_subsists h
  have hsession : ∀ (name : String) {x : SessionId → Action Bench Answer},
      (∀ s, (x s).Within Subsists) → (withSession name x).Within Subsists := fun _ _ h =>
    Action.Within.get.bind fun _ => withObject_subsists h
  have hgrows : ∀ {x : Action Bench Answer}, x.Within Subsists →
      Grows host b (x.run host b).2 := fun h => (h host b).grows host
  cases c with
  | create owner config as =>
    exact withOwner_grows fun o => answerCreation_grows as (.create config) o host b
  | createFromLibrary owner name as =>
    exact withOwner_grows fun o => answerCreation_grows as (.fromLibrary name) o host b
  | getOrCreate owner config as =>
    exact withOwner_grows fun o => answerCreation_grows as (.getOrCreate config) o host b
  | createFromProvider owner source as =>
    refine withOwner_grows fun o => (take_subsists source host b).then_grows ?_
    rw [Action.run_bind]
    cases (source.take.run host b).1 with
    | none => exact Subsists.grows (Std.Refl.refl _) host
    | some held => exact answerCreation_grows as (.fromProvider held.provider) o host _
  | newOwner name => exact hgrows (newOwner_subsists name)
  | dropOwner name =>
    exact hgrows (Action.Within.get.bind fun _ => withObject_subsists fun o =>
      Action.Within.bind (fun _ _ => .of_eq rfl) fun _ =>
        (destroy_subsists o).bind fun _ => .pure _)
  | destroy owner =>
    exact hgrows (howner _ fun o => (destroy_subsists o).bind fun _ =>
      (session?_subsists o).bind fun _ => .pure _)
  | isCreated owner =>
    exact hgrows (howner _ fun o => (session?_subsists o).bind fun _ => .pure _)
  | current owner as =>
    refine hgrows (howner _ fun o => (session?_subsists o).bind fun found => ?_)
    cases found with
    | none => exact .pure _
    | some s =>
      exact Action.Within.bind (Action.Within.get.bind fun _ =>
        (keepHandle_subsists as s).bind fun _ => .pure _) fun _ => .pure _
  | address session name =>
    exact hgrows (hsession _ fun s =>
      (liftDesk_subsists (s.address_consults name)).bind fun _ => .pure _)
  | addressFor session platform name =>
    exact hgrows (hsession _ fun s =>
      (liftDesk_subsists (s.addressFor_consults platform name)).bind fun _ => .pure _)
  | library session =>
    exact hgrows (hsession _ fun s => Action.Within.get.bind fun _ =>
      withObject_subsists fun _ => .pure _)
  | platforms session =>
    exact hgrows (hsession _ fun s =>
      (liftDesk_subsists s.platforms_consults).bind fun _ => .pure _)
  | platformText session platform parameter =>
    exact hgrows (hsession _ fun s =>
      (liftDesk_subsists (s.platformText_consults platform parameter)).bind fun _ => .pure _)
  | platformCapabilities session platform =>
    exact hgrows (hsession _ fun s => (liftDesk_subsists (x := (s.platformCapabilities
      platform).outcome) (s.platformCapabilities_consults platform)).bind fun _ => .pure _)
  | state session =>
    exact hgrows (hsession _ fun s => Action.Within.get.bind fun _ =>
      withObject_subsists fun _ => .pure _)
  | dropHandle name =>
    exact hgrows (hsession _ fun s => Action.Within.bind (fun _ _ => .of_eq rfl) fun _ => .pure _)

/-- A turn changes no active session, and adds none but with capabilities read off on its host. -/
theorem Turn.next_grows (t : Turn) (b : Bench) : Grows t.host b (t.next b) := by
  obtain ⟨host, c⟩ := t
  cases c with
  | provider command => exact (command.perform_subsists host b).grows host
  | session command => exact command.perform_grows host b
  | audio command => exact (command.perform_subsists host b).grows host
  | headset command => exact (command.perform_subsists host b).grows host
  | log command => exact (command.perform_subsists host b).grows host

/-- An active session was there before the turns, or one of them made it. -/
theorem after_origin (turns : List Turn) {s : SessionId} {x : Session} {provider : Provider}
    (hx : (after b turns).desk.sessions s = some x) (hprovider : x.provider = some provider) :
    b.desk.sessions s = some x ∨ ∃ t ∈ turns, x.library.IsReadOff t.host provider := by
  induction turns generalizing b with
  | nil => exact .inl hx
  | cons t turns ih =>
    rcases ih hx with hnext | ⟨t', ht', hread⟩
    · rcases t.next_grows b s x provider hnext hprovider with hbefore | hread
      · exact .inl hbefore
      · exact .inr ⟨t, List.mem_cons_self, hread⟩
    · exact .inr ⟨t', List.mem_cons_of_mem _ ht', hread⟩

/-- There is no session at the start, so a turn made each. -/
theorem reached_origin {first : Host} {turns : List Turn} {s : SessionId} {x : Session}
    {provider : Provider} (hx : (reached first turns).desk.sessions s = some x)
    (hprovider : x.provider = some provider) :
    ∃ t ∈ turns, x.library.IsReadOff t.host provider := by
  rcases after_origin turns hx hprovider with hstart | hturn
  · cases hstart
  · exact hturn

end NativeBinding.Scenario
