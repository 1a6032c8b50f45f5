import NativeBinding.Proofs.Holdings
import NativeBinding.Proofs.ImpartialBindings
import NativeBinding.Scenario.Run

/-!
The commands of a scenario do not care who listens, apart from those that say who does; nor does the
teardown.
-/
namespace NativeBinding.Scenario

open OpenCL Bench

instance : HasWorld Bench where
  world b := b.desk.world
  putWorld := Bench.putWorld
  world_put _ _ := rfl
  put_world _ := rfl
  put_put _ _ _ := rfl

theorem liftDesk_impartial {α : Type} {x : Action Desk α} (hx : x.Impartial) :
    (liftM x : Action Bench α).Impartial := by
  intro host b
  rw [run_liftDesk, run_liftDesk, hx host b.desk]
  rfl

theorem liftWorld_impartial {α : Type} {x : Action World α} (hx : x.Impartial) :
    (liftM x : Action Bench α).Impartial :=
  liftDesk_impartial (liftAction_impartial hx)

variable {α : Type}

theorem withObject_impartial {object : Option α} {x : α → Action Bench Answer}
    (h : ∀ a, (x a).Impartial) : (withObject object x).Impartial := by
  cases object with
  | none => exact .pure _
  | some a => exact h a

theorem dropOld_impartial {drop : α → Action Desk Unit} (h : ∀ a, (drop a).Impartial)
    (old : Option α) : (dropOld drop old).Impartial := by
  cases old with
  | none => exact .pure _
  | some a => exact liftDesk_impartial (h a)

theorem take_impartial (source : Source) : source.take.Impartial := by
  cases source with
  | supplied k =>
    exact (liftWorld_impartial (Provider.supply_impartial k true)).bind fun _ => .pure _
  | plain k =>
    exact (liftWorld_impartial (Provider.supply_impartial k false)).bind fun _ => .pure _
  | named name => exact fun _ _ => rfl

theorem keepProvider_impartial (name : String) (held : Held) :
    (keepProvider name held).Impartial := by
  refine .get_bind (fun _ => rfl) fun b => ?_
  refine Action.Impartial.bind (fun _ _ => rfl) fun _ => ?_
  exact dropOld_impartial (fun old : Held => liftAction_impartial old.provider.drop_impartial) _

theorem ProviderCommand.perform_impartial (c : ProviderCommand) : c.perform.Impartial := by
  have hprovider : ∀ (name : String) {x : Provider → Action Bench Answer},
      (∀ p, (x p).Impartial) → (withProvider name x).Impartial := fun _ _ h =>
    .get_bind (fun _ => rfl) fun _ => withObject_impartial fun held => h held.provider
  have hentry : ∀ (provider : Option String) (f : NativeFunction)
      {x : Option (Entry f) → Action Bench Answer}, (∀ e, (x e).Impartial) →
        (withEntry provider f x).Impartial := by
    intro provider f x h
    cases provider with
    | none => exact h none
    | some name =>
      exact hprovider name fun p => (liftWorld_impartial (p.entryOf_impartial f)).bind h
  cases c <;> simp only [perform]
  case load name fallbacks as =>
    refine (liftWorld_impartial (SharedLibrary.load_impartial _ _)).bind fun outcome => ?_
    cases outcome with
    | error failure => exact .pure _
    | ok library => exact (keepProvider_impartial _ _).bind fun _ => .pure _
  case resolver source as =>
    refine (take_impartial source).bind fun _ => withObject_impartial fun held => ?_
    refine (liftWorld_impartial (resolverFor_impartial _)).bind fun outcome => ?_
    cases outcome with
    | error failure => exact .pure _
    | ok r => exact (keepProvider_impartial _ _).bind fun _ => .pure _
  case keep source isOpaque as =>
    refine (take_impartial source).bind fun _ => withObject_impartial fun held => ?_
    exact (keepProvider_impartial _ _).bind fun _ => .pure _
  case state name =>
    exact .get_bind (fun _ => rfl) fun _ => withObject_impartial fun _ => .pure _
  case address provider name =>
    exact hprovider _ fun p => (liftWorld_impartial (p.address_impartial name)).bind fun _ =>
      .pure _
  case addressFor provider platform name =>
    exact hprovider _ fun p =>
      (liftWorld_impartial (p.addressFor_impartial platform name)).bind fun _ => .pure _
  case require provider name =>
    exact hprovider _ fun p => (liftWorld_impartial (p.require_impartial name)).bind fun _ =>
      .pure _
  case release name =>
    refine .get_bind (fun _ => rfl) fun _ => withObject_impartial fun held => ?_
    refine (liftWorld_impartial held.provider.release_impartial).bind fun provider => ?_
    exact Action.Impartial.bind (fun _ _ => rfl) fun _ => .pure _
  case drop name =>
    refine (take_impartial _).bind fun _ => withObject_impartial fun held => ?_
    exact (liftWorld_impartial held.provider.drop_impartial).bind fun _ => .pure _
  case libraryCapabilities provider =>
    exact hprovider _ fun p =>
      (liftWorld_impartial (Capabilities.ofLibrary_impartial p)).bind fun _ => .pure _
  case platformCapabilities provider platform =>
    exact hprovider _ fun p =>
      (liftWorld_impartial (Capabilities.ofPlatform_impartial p platform)).bind fun _ => .pure _
  case platformCount provider =>
    exact hentry _ _ fun e => (liftWorld_impartial (platformCount_impartial e)).bind fun _ =>
      .pure _
  case platformIds provider =>
    exact hentry _ _ fun e => (liftWorld_impartial (platformIds_impartial e)).bind fun _ => .pure _
  case platformText provider platform parameter =>
    exact hentry _ _ fun e =>
      (liftWorld_impartial (platformText_impartial e platform parameter)).bind fun _ => .pure _

theorem keepHandle_impartial (as : Option String) (s : SessionId) :
    (keepHandle as s).Impartial := by
  cases as with
  | none => exact .pure _
  | some name => exact fun _ _ => rfl

theorem answerSession_impartial (as : Option String) (s : SessionId) :
    (answerSession as s).Impartial :=
  .get_bind (fun _ => rfl) fun _ => (keepHandle_impartial as s).bind fun _ => .pure _

theorem answerCreation_impartial (as : Option String) {x : Attempt Desk SessionId}
    (hx : x.Impartial) : (answerCreation as x).Impartial := by
  refine (liftDesk_impartial hx).bind fun outcome => ?_
  cases outcome with
  | ok s => exact (answerSession_impartial as s).bind fun _ => .pure _
  | error failure => exact .pure _

theorem SessionCommand.perform_impartial (c : SessionCommand) : c.perform.Impartial := by
  have howner : ∀ (name : String) {x : OwnerId → Action Bench Answer},
      (∀ o, (x o).Impartial) → (withOwner name x).Impartial := fun _ _ h =>
    .get_bind (fun _ => rfl) fun _ => withObject_impartial h
  have hsession : ∀ (name : String) {x : SessionId → Action Bench Answer},
      (∀ s, (x s).Impartial) → (withSession name x).Impartial := fun _ _ h =>
    .get_bind (fun _ => rfl) fun _ => withObject_impartial h
  cases c with
  | newOwner name =>
    refine (liftDesk_impartial OwnerId.new_impartial).bind fun o => ?_
    refine .get_bind (fun _ => rfl) fun b => Action.Impartial.bind (fun _ _ => rfl) fun _ => ?_
    exact (dropOld_impartial OwnerId.destroy_impartial _).bind fun _ => .pure _
  | dropOwner name =>
    refine .get_bind (fun _ => rfl) fun b => withObject_impartial fun o => ?_
    refine Action.Impartial.bind (fun _ _ => rfl) fun _ => ?_
    exact (liftDesk_impartial o.destroy_impartial).bind fun _ => .pure _
  | create owner config as =>
    exact howner _ fun o => answerCreation_impartial as (o.createFromLibrary_impartial _)
  | createFromLibrary owner name as =>
    exact howner _ fun o => answerCreation_impartial as (o.createFromLibrary_impartial name)
  | createFromProvider owner source as =>
    refine howner _ fun o => (take_impartial source).bind fun _ => ?_
    exact withObject_impartial fun held =>
      answerCreation_impartial as (o.createFromProvider_impartial held.provider)
  | getOrCreate owner config as =>
    exact howner _ fun o => answerCreation_impartial as (o.getOrCreate_impartial config)
  | destroy owner =>
    refine howner _ fun o => (liftDesk_impartial o.destroy_impartial).bind fun _ => ?_
    exact (liftDesk_impartial o.session?_impartial).bind fun _ => .pure _
  | isCreated owner =>
    exact howner _ fun o => (liftDesk_impartial o.session?_impartial).bind fun _ => .pure _
  | current owner as =>
    refine howner _ fun o => (liftDesk_impartial o.session?_impartial).bind fun found => ?_
    cases found with
    | none => exact .pure _
    | some s => exact (answerSession_impartial as s).bind fun _ => .pure _
  | address session name =>
    exact hsession _ fun s => (liftDesk_impartial (s.address_impartial name)).bind fun _ => .pure _
  | addressFor session platform name =>
    exact hsession _ fun s =>
      (liftDesk_impartial (s.addressFor_impartial platform name)).bind fun _ => .pure _
  | library session =>
    exact hsession _ fun s => .get_bind (fun _ => rfl) fun _ =>
      withObject_impartial fun _ => .pure _
  | platforms session =>
    exact hsession _ fun s => (liftDesk_impartial s.platforms_impartial).bind fun _ => .pure _
  | platformText session platform parameter =>
    exact hsession _ fun s =>
      (liftDesk_impartial (s.platformText_impartial platform parameter)).bind fun _ => .pure _
  | platformCapabilities session platform =>
    exact hsession _ fun s =>
      (liftDesk_impartial (s.platformCapabilities_impartial platform)).bind fun _ => .pure _
  | state session =>
    exact hsession _ fun s => .get_bind (fun _ => rfl) fun _ =>
      withObject_impartial fun _ => .pure _
  | dropHandle name =>
    exact hsession _ fun s => Action.Impartial.bind (fun _ _ => rfl) fun _ => .pure _

theorem keepAudio_impartial (as : String) {x : Attempt World OpenAL.AudioLibrary}
    (hx : x.Impartial) : (keepAudio as x).Impartial := by
  refine (liftWorld_impartial hx).bind fun outcome => ?_
  cases outcome with
  | error failure => exact .pure _
  | ok a =>
    refine .get_bind (fun _ => rfl) fun b => Action.Impartial.bind (fun _ _ => rfl) fun _ => ?_
    exact (dropOld_impartial (fun old : OpenAL.AudioLibrary =>
      liftAction_impartial old.drop_impartial) _).bind fun _ => .pure _

theorem AudioCommand.perform_impartial (c : AudioCommand) : c.perform.Impartial := by
  have haudio : ∀ (name : String) {x : OpenAL.AudioLibrary → Action Bench Answer},
      (∀ a, (x a).Impartial) → (withAudio name x).Impartial := fun _ _ h =>
    .get_bind (fun _ => rfl) fun _ => withObject_impartial h
  cases c with
  | ofProvider source as =>
    exact (take_impartial source).bind fun _ => withObject_impartial fun held =>
      keepAudio_impartial as (OpenAL.AudioLibrary.ofProvider_impartial held.provider)
  | load config as => exact keepAudio_impartial as (OpenAL.AudioLibrary.load_impartial config)
  | check audio =>
    exact haudio _ fun a => (liftWorld_impartial a.check_impartial).bind fun _ => .pure _
  | checkDevice audio device =>
    exact haudio _ fun a => (liftWorld_impartial (a.checkDevice_impartial device)).bind fun _ =>
      .pure _
  | errorText audio code =>
    exact haudio _ fun a => (liftWorld_impartial (a.errorText_impartial code)).bind fun _ =>
      .pure _
  | deviceErrorText audio device code =>
    exact haudio _ fun a =>
      (liftWorld_impartial (a.deviceErrorText_impartial device code)).bind fun _ => .pure _
  | drop audio =>
    refine haudio _ fun a => Action.Impartial.bind (fun _ _ => rfl) fun _ => ?_
    exact (liftWorld_impartial a.drop_impartial).bind fun _ => .pure _

theorem keepHeadset_impartial (as : String) {x : Attempt World LibOVR.HeadsetRuntime}
    (hx : x.Impartial) : (keepHeadset as x).Impartial := by
  refine (liftWorld_impartial hx).bind fun outcome => ?_
  cases outcome with
  | error failure => exact .pure _
  | ok r =>
    refine .get_bind (fun _ => rfl) fun b => Action.Impartial.bind (fun _ _ => rfl) fun _ => ?_
    exact (dropOld_impartial (fun old : LibOVR.HeadsetRuntime =>
      liftAction_impartial old.drop_impartial) _).bind fun _ => .pure _

theorem HeadsetCommand.perform_impartial (c : HeadsetCommand) : c.perform.Impartial := by
  have hheadset : ∀ (name : String) {x : LibOVR.HeadsetRuntime → Action Bench Answer},
      (∀ r, (x r).Impartial) → (withHeadset name x).Impartial := fun _ _ h =>
    .get_bind (fun _ => rfl) fun _ => withObject_impartial h
  cases c with
  | ofProvider source as =>
    exact (take_impartial source).bind fun _ => withObject_impartial fun held =>
      keepHeadset_impartial as (LibOVR.HeadsetRuntime.ofProvider_impartial held.provider)
  | load config as => exact keepHeadset_impartial as (LibOVR.HeadsetRuntime.load_impartial config)
  | start headset flags =>
    refine hheadset _ fun r => ?_
    refine (liftWorld_impartial (r.start_impartial flags)).bind fun outcome => ?_
    cases outcome with
    | error failure => exact .pure _
    | ok started => exact Action.Impartial.bind (fun _ _ => rfl) fun _ => .pure _
  | version headset =>
    exact hheadset _ fun r => (liftWorld_impartial r.versionText_impartial).bind fun _ => .pure _
  | state headset => exact hheadset _ fun r => .pure _
  | shutdown headset =>
    refine hheadset _ fun r => (liftWorld_impartial r.shutdown_impartial).bind fun _ => ?_
    exact Action.Impartial.bind (fun _ _ => rfl) fun _ => .pure _
  | drop headset =>
    refine hheadset _ fun r => Action.Impartial.bind (fun _ _ => rfl) fun _ => ?_
    exact (liftWorld_impartial r.drop_impartial).bind fun _ => .pure _

/-- The handler that a command puts in place of the installed one, if it is such a command. -/
def Command.handler? : Command → Option (Option Handler)
  | .log (.install handler) => some (some handler)
  | .log .clear => some none
  | _ => none

/-- Only the commands that change the handler care about it. -/
theorem Command.perform_impartial {c : Command} (h : c.handler? = none) : c.perform.Impartial := by
  cases c with
  | provider command => exact command.perform_impartial
  | session command => exact command.perform_impartial
  | audio command => exact command.perform_impartial
  | headset command => exact command.perform_impartial
  | log command =>
    cases command with
    | install handler => cases h
    | clear => cases h
    | message level text =>
      exact (liftWorld_impartial (log_impartial level text)).bind fun _ => .pure _

/-- The bench without its objects. -/
def Bench.emptied (b : Bench) : Bench :=
  { b with
    handles := .empty, providers := .empty, headsets := .empty, audio := .empty, owners := .empty }

/-- Drops what a bench held, as the teardown does. -/
def Bench.dropObjects (b : Bench) : Action Bench Unit := do
  b.providers.values.forM fun held => (held.provider.drop : Action World Unit)
  b.headsets.values.forM fun r => (r.drop : Action World Unit)
  b.audio.values.forM fun a => (a.drop : Action World Unit)
  b.owners.values.forM fun o => (OwnerId.destroy o : Action Desk Unit)
  OwnerId.destroy Desk.globalOwner

theorem Bench.dropObjects_impartial (b : Bench) : b.dropObjects.Impartial := by
  have hproviders : ∀ held : Held,
      Action.Impartial (liftM held.provider.drop : Action Bench Unit) :=
    fun held => liftWorld_impartial held.provider.drop_impartial
  have hheadsets : ∀ r : LibOVR.HeadsetRuntime,
      Action.Impartial (liftM r.drop : Action Bench Unit) :=
    fun r => liftWorld_impartial r.drop_impartial
  have haudio : ∀ a : OpenAL.AudioLibrary, Action.Impartial (liftM a.drop : Action Bench Unit) :=
    fun a => liftWorld_impartial a.drop_impartial
  have howners : ∀ o : OwnerId, Action.Impartial (liftM o.destroy : Action Bench Unit) :=
    fun o => liftDesk_impartial o.destroy_impartial
  exact (Action.Impartial.forM hproviders).bind fun _ =>
    (Action.Impartial.forM hheadsets).bind fun _ =>
      (Action.Impartial.forM haudio).bind fun _ =>
        (Action.Impartial.forM howners).bind fun _ => howners _

/-- The teardown reads the whole bench, but makes nothing of the handler and of the history. -/
theorem teardown_impartial : teardown.Impartial := by
  intro host b
  have hrun : ∀ b : Bench, teardown.run host b = b.dropObjects.run host b.emptied := fun _ => rfl
  have hsame : (unheard b).dropObjects = b.dropObjects := rfl
  rw [hrun, hrun, hsame]
  exact b.dropObjects_impartial host b.emptied

end NativeBinding.Scenario
