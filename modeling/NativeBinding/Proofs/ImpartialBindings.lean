import NativeBinding.LibOVR.Runtime
import NativeBinding.OpenAL.ErrorFlag
import NativeBinding.OpenCL.Owner
import NativeBinding.Proofs.Impartiality

/-! The bindings do not care who listens to what they log. -/
namespace NativeBinding

namespace OpenCL

theorem platformCount_impartial (entry : Option (Entry .platformIds)) :
    (platformCount entry).Impartial := by
  cases entry with
  | none => exact .pure _
  | some e => exact Action.Impartial.bind (Native.answer_impartial _ _ _) fun _ => .pure _

theorem platformIds_impartial (entry : Option (Entry .platformIds)) :
    (platformIds entry).Impartial := by
  refine (platformCount_impartial entry).bind fun count => ?_
  cases entry with
  | none => exact .pure _
  | some e =>
    cases count with
    | zero => exact .pure _
    | succ n => exact Action.Impartial.bind (Native.answer_impartial _ _ _) fun _ => .pure _

theorem platformText_impartial (entry : Option (Entry .platformInfo)) (p : PlatformId)
    (parameter : PlatformParameter) : (platformText entry p parameter).Impartial := by
  cases entry with
  | none => exact .pure _
  | some e =>
    refine Action.Impartial.bind (Native.answer_impartial _ _ _) fun answer => ?_
    refine (Action.Impartial.pure _).ite ((Action.Impartial.pure _).ite ?_)
    exact Action.Impartial.bind (Native.answer_impartial _ _ _) fun _ => .pure _

section Provider

variable (provider : Provider)

theorem supports12_impartial (p : PlatformId) : (supports12 provider p).Impartial := by
  refine (Attempt.Impartial.lift (provider.entryOf_impartial _)).bind fun entry => ?_
  refine (Attempt.Impartial.lift (platformText_impartial _ _ _)).bind fun text => ?_
  cases text with
  | none => exact .pure _
  | some text =>
    cases hversion : Version.parse text versionWord <;> simp only [hversion]
    · exact .throw _
    · exact .pure _

theorem solePlatform_impartial (generic : Address) :
    (solePlatform provider generic).Impartial := by
  refine (provider.require_impartial _).bind fun found => ?_
  refine (Attempt.Impartial.lift (platformCount_impartial _)).bind fun count => ?_
  refine Attempt.Impartial.ite ?_ ((Attempt.Impartial.throw _).ite (.pure _))
  refine (Attempt.Impartial.lift (platformIds_impartial _)).bind fun ids => ?_
  cases ids with
  | nil => exact .pure _
  | cons p ps => exact (supports12_impartial provider p).bind fun _ => .pure _

theorem chooseStrategy_impartial (generic perPlatform : Address) :
    (chooseStrategy provider generic perPlatform).Impartial := by
  refine ((Attempt.Impartial.pure _).ite (solePlatform_impartial provider generic)).bind
    fun selected => ?_
  cases selected with
  | some p => exact .pure _
  | none => exact (Attempt.Impartial.throw _).ite (.pure _)

theorem resolverFor_impartial : (resolverFor provider).Impartial := by
  refine (Attempt.Impartial.lift (provider.address_impartial _)).bind fun generic => ?_
  refine (Attempt.Impartial.lift (provider.address_impartial _)).bind fun perPlatform => ?_
  refine (provider.releasedOnFailure_impartial
    (chooseStrategy_impartial provider generic perPlatform)).bind fun strategy => ?_
  exact (Attempt.Impartial.lift (log_impartial _ _)).bind fun _ => .pure _

end Provider

section Tables

variable {lookup : String → Action World Address}

theorem FunctionTable.resolveAll_impartial (h : ∀ name, (lookup name).Impartial)
    (functions : List String) : (resolveAll lookup functions).Impartial := by
  induction functions with
  | nil => exact .pure _
  | cons f fs ih =>
    refine (h f).bind fun found => (Action.Impartial.pure _).ite (ih.bind fun rest => ?_)
    cases rest with
    | error missing => exact .pure _
    | ok rest => exact .pure _

theorem Feature.resolve_impartial (h : ∀ name, (lookup name).Impartial) (feature : Feature) :
    (feature.resolve lookup).Impartial := by
  refine (FunctionTable.resolveAll_impartial h _).bind fun found => ?_
  cases found with
  | error missing => exact .pure _
  | ok functions => exact .pure _

theorem CapabilitySet.gate_impartial {α : Type} (s : CapabilitySet) (extension : String)
    (found : Except String α) : (s.gate extension found).Impartial := by
  refine Action.Impartial.ite ?_ (.pure _)
  cases found with
  | ok a => exact .pure _
  | error missing => exact (log_impartial _ _).bind fun _ => .pure _

end Tables

namespace Capabilities

variable (provider : Provider)

theorem libraryTables_impartial (features : List Feature) :
    (libraryTables provider features).Impartial := by
  induction features with
  | nil => exact .pure _
  | cons feature features ih =>
    refine (Attempt.Impartial.lift
      (feature.resolve_impartial provider.address_impartial)).bind fun found => ?_
    cases found with
    | ok table => exact ih.bind fun _ => .pure _
    | error missing => exact (Attempt.Impartial.throw _).ite ih

theorem ofLibrary_impartial : (ofLibrary provider).Impartial :=
  (libraryTables_impartial provider _).bind fun _ => .pure _

theorem platformAddress_impartial (p : PlatformId) (name : String) :
    (platformAddress provider p name).Impartial :=
  (provider.addressFor_impartial p name).bind fun _ =>
    (provider.address_impartial name).ite (.pure _)

theorem platformTables_impartial (p : PlatformId) (s : CapabilitySet) (features : List Feature) :
    (platformTables provider p s features).Impartial := by
  induction features with
  | nil => exact .pure _
  | cons feature features ih =>
    refine (feature.resolve_impartial (platformAddress_impartial provider p)).bind fun found => ?_
    exact (s.gate_impartial _ found).bind fun _ => ih.bind fun _ => .pure _

theorem ofPlatform_impartial (p : PlatformId) : (ofPlatform provider p).Impartial := by
  refine (provider.requireEntry_impartial _).bind fun e => ?_
  refine (Attempt.Impartial.lift (platformText_impartial _ _ _)).bind fun text => ?_
  cases text with
  | none => exact .throw _
  | some text =>
    cases hversion : Version.parse text versionWord <;> simp only [hversion]
    · exact .throw _
    · refine (Attempt.Impartial.lift (platformText_impartial _ _ _)).bind fun names => ?_
      exact (Attempt.Impartial.lift (platformTables_impartial provider p _ _)).bind fun _ =>
        .pure _

end Capabilities

/-! Sessions and their owners. -/

instance : HasWorld Desk where
  world := Desk.world
  putWorld := Desk.putWorld
  world_put _ _ := rfl
  put_world _ := rfl
  put_put _ _ _ := rfl

theorem liftAction_impartial {α : Type} {x : Action World α} (hx : x.Impartial) :
    (liftM x : Action Desk α).Impartial := by
  intro host d
  rw [Desk.run_liftAction, Desk.run_liftAction, hx host d.world]
  rfl

theorem liftAttempt_impartial {α : Type} {x : Attempt World α} (hx : x.Impartial) :
    (liftM x : Attempt Desk α).Impartial :=
  liftAction_impartial (x := x.outcome) hx

namespace SessionId

variable (s : SessionId)

theorem provider?_impartial : s.provider?.Impartial := fun _ _ => rfl

theorem address_impartial (name : String) : (s.address name).Impartial := by
  refine s.provider?_impartial.bind fun found => ?_
  cases found with
  | none => exact .pure _
  | some provider => exact liftAction_impartial (provider.address_impartial name)

theorem addressFor_impartial (p : PlatformId) (name : String) :
    (s.addressFor p name).Impartial := by
  refine s.provider?_impartial.bind fun found => ?_
  cases found with
  | none => exact .pure _
  | some provider => exact liftAction_impartial (provider.addressFor_impartial p name)

theorem entryOf_impartial (f : NativeFunction) : (s.entryOf f).Impartial :=
  (s.address_impartial f.name).bind fun _ => .pure _

theorem platforms_impartial : s.platforms.Impartial :=
  (s.entryOf_impartial _).bind fun entry => liftAction_impartial (platformIds_impartial entry)

theorem platformText_impartial (p : PlatformId) (parameter : PlatformParameter) :
    (s.platformText p parameter).Impartial :=
  (s.entryOf_impartial _).bind fun entry =>
    liftAction_impartial (OpenCL.platformText_impartial entry p parameter)

theorem platformCapabilities_impartial (p : PlatformId) :
    (s.platformCapabilities p).Impartial := by
  refine (Attempt.Impartial.lift s.provider?_impartial).bind fun found => ?_
  cases found with
  | none => exact .throw _
  | some provider =>
    exact liftAttempt_impartial (Capabilities.ofPlatform_impartial provider p)

theorem release_impartial : s.release.Impartial := by
  refine Action.Impartial.bind (fun _ _ => rfl) fun found => ?_
  cases found with
  | none => exact .pure _
  | some provider => exact liftAction_impartial provider.releaseFully_impartial

end SessionId

namespace OwnerId

variable (o : OwnerId)

theorem new_impartial : new.Impartial := fun _ _ => rfl

theorem session?_impartial : o.session?.Impartial := fun _ _ => rfl

theorem install_impartial (provider : Provider) (strategy : Option Strategy) :
    (o.install provider strategy).Impartial := by
  refine (liftAttempt_impartial (provider.releasedOnFailure_impartial
    (Capabilities.ofLibrary_impartial provider))).bind fun library => ?_
  refine (Attempt.Impartial.lift fun _ _ => rfl).bind fun s => ?_
  exact (Attempt.Impartial.lift (liftAction_impartial (log_impartial _ _))).bind fun _ => .pure _

theorem loadSession_impartial (name : String) : (o.loadSession name).Impartial :=
  (liftAttempt_impartial (SharedLibrary.load_impartial _ _)).bind fun _ =>
    (liftAttempt_impartial (resolverFor_impartial _)).bind fun _ => o.install_impartial _ _

theorem createFromLibrary_impartial (name : String) : (o.createFromLibrary name).Impartial := by
  refine (Attempt.Impartial.lift o.session?_impartial).bind fun found => ?_
  cases found with
  | some s => exact .throw _
  | none => exact o.loadSession_impartial name

theorem createFromProvider_impartial (provider : Provider) :
    (o.createFromProvider provider).Impartial := by
  refine (Attempt.Impartial.lift o.session?_impartial).bind fun found => ?_
  cases found with
  | none => exact o.install_impartial _ _
  | some s =>
    exact (Attempt.Impartial.lift
      (liftAction_impartial provider.releaseFully_impartial)).bind fun _ => .throw _

theorem getOrCreate_impartial (config : Config) : (o.getOrCreate config).Impartial := by
  refine (Attempt.Impartial.lift o.session?_impartial).bind fun found => ?_
  cases found with
  | some s => exact .pure _
  | none => exact (Attempt.Impartial.throw _).ite (o.loadSession_impartial _)

theorem destroy_impartial : o.destroy.Impartial := by
  refine Action.Impartial.bind (fun _ _ => rfl) fun found => ?_
  cases found with
  | none => exact .pure _
  | some s =>
    exact s.release_impartial.bind fun _ => liftAction_impartial (log_impartial _ _)

end OwnerId

end OpenCL

namespace OpenAL.AudioLibrary

theorem ofProvider_impartial (provider : Provider) : (ofProvider provider).Impartial :=
  provider.releasedOnFailure_impartial <|
    (provider.requireEntry_impartial _).bind fun _ =>
      (provider.requireEntry_impartial _).bind fun _ =>
        (provider.requireEntry_impartial _).bind fun _ =>
          (provider.requireEntry_impartial _).bind fun _ => .pure _

theorem load_impartial (config : Config) : (load config).Impartial :=
  (SharedLibrary.load_impartial _ _).bind fun _ => ofProvider_impartial _

variable (a : AudioLibrary)

theorem errorText_impartial (code : Int32) : (a.errorText code).Impartial :=
  Action.Impartial.bind (Native.answer_impartial _ _ _) fun _ => .pure _

theorem deviceErrorText_impartial (d : Device) (code : Int32) :
    (a.deviceErrorText d code).Impartial :=
  Action.Impartial.bind (Native.answer_impartial _ _ _) fun _ => .pure _

theorem check_impartial : a.check.Impartial :=
  (Attempt.Impartial.lift (Native.alError_impartial _)).bind fun code =>
    (Attempt.Impartial.pure _).ite
      ((Attempt.Impartial.lift (a.errorText_impartial code)).bind fun _ => .throw _)

theorem checkDevice_impartial (d : Device) : (a.checkDevice d).Impartial :=
  (Attempt.Impartial.lift (Native.alcError_impartial _ d)).bind fun code =>
    (Attempt.Impartial.pure _).ite
      ((Attempt.Impartial.lift (a.deviceErrorText_impartial d code)).bind fun _ => .throw _)

theorem drop_impartial : a.drop.Impartial := a.provider.releaseFully_impartial

end OpenAL.AudioLibrary

namespace LibOVR

theorem forward_impartial (m : RuntimeMessage) : (forward m).Impartial := by
  unfold forward
  cases m.text with
  | none => exact .pure _
  | some text => exact log_impartial _ _

namespace HeadsetRuntime

theorem ofProvider_impartial (provider : Provider) : (ofProvider provider).Impartial :=
  provider.releasedOnFailure_impartial <|
    (provider.requireEntry_impartial _).bind fun _ =>
      (provider.requireEntry_impartial _).bind fun _ =>
        (provider.requireEntry_impartial _).bind fun _ => .pure _

theorem load_impartial (config : Config) : (load config).Impartial :=
  (SharedLibrary.load_impartial _ _).bind fun _ => ofProvider_impartial _

variable (r : HeadsetRuntime)

theorem ovrStart_impartial (parameters : StartParameters) :
    (Native.ovrStart forward r.startEntry parameters).Impartial := by
  refine (Native.call_impartial _ _).bind fun _ => ?_
  refine Action.Impartial.bind (fun _ _ => rfl) fun _ => ?_
  refine (Action.Impartial.theLibrary _).bind fun _ => ?_
  refine (Native.report_impartial forward_impartial _ _).bind fun _ => ?_
  exact fun _ _ => rfl

theorem start_impartial (flags : StartFlags) : (r.start flags).Impartial := by
  refine (Attempt.Impartial.throw _).ite ?_
  refine (Attempt.Impartial.lift (r.ovrStart_impartial _)).bind fun result => ?_
  refine (Attempt.Impartial.throw _).ite ?_
  exact (Attempt.Impartial.lift (log_impartial _ _)).bind fun _ => .pure _

theorem versionText_impartial : r.versionText.Impartial := by
  refine Action.Impartial.bind ?_ fun _ => .pure _
  refine (Native.call_impartial _ _).bind fun _ => ?_
  refine (Action.Impartial.theLibrary _).bind fun _ => ?_
  exact (Native.report_impartial forward_impartial _ _).bind fun _ =>
    (Action.Impartial.theLibrary _).bind fun _ => .pure _

theorem shutdown_impartial : r.shutdown.Impartial := by
  refine Action.Impartial.ite ?_ (.pure _)
  refine Action.Impartial.bind ?_ fun _ => (log_impartial _ _).bind fun _ => .pure _
  exact (Native.call_impartial _ _).bind fun _ => (Action.Impartial.theLibrary _).bind fun _ =>
    Native.report_impartial forward_impartial _ _

theorem drop_impartial : r.drop.Impartial :=
  r.shutdown_impartial.bind fun r => r.provider.releaseFully_impartial

end HeadsetRuntime

end LibOVR

end NativeBinding
