import NativeBinding.Proofs.ProviderCommands

/-!
Commands about OpenAL libraries and headset runtimes are fair to what the objects of a scenario
hold.
-/
namespace NativeBinding.Scenario

open Bench

variable {host : Host} {k : Serial} {b : Bench}

/-- What is built is kept in place of what had its name. -/
theorem keepAudio_fair {hand : Option Provider} (as : String)
    {x : Attempt World OpenAL.AudioLibrary} (hb : b.Healthy)
    (hbuilds : ∀ k : Serial, k.IsRecorded →
      x.Builds host k (givenHolds k hand) fun a => a.provider.holds k)
    (hbare : ∀ a, (x.run host b.desk.world).1 = .ok a →
      ∀ k, b.Bare k → a.provider.holds k ≤ givenHolds k hand)
    (hroot : ∀ a, (x.run host b.desk.world).1 = .ok a → a.provider.root.isSome) :
    Fair host hand false b ((keepAudio as x).run host b).2 := by
  refine fair_of_outcome (fun a => a.provider) hb (fun _ => rfl) hbuilds hbare fun a w ha => ?_
  let w' := (((b.audio.get? as).elim (pure ()) fun a => a.drop).run host w).2
  have hrun : ((do
      let old := (← get).audio.get? as
      modify fun b => { b with audio := b.audio.put as a }
      dropOld (fun a => a.drop) old
      return .ok .audio : Action Bench Answer).run host (b.putWorld w)).2 =
        { (b.putWorld w).putWorld w' with audio := b.audio.put as a } := by
    simp only [Action.run_bind, Action.run_get, Action.run_modify, run_dropOld]
    rfl
  rw [hrun]
  refine fair_audio (hb.putWorld w) ?_ fun k hk => ?_
  · intro other hother
    rcases Shelf.mem_values_put.mp hother with rfl | hother
    · exact hroot other ha
    · exact hb.audio other (Shelf.mem_values_of_erase hother)
  · exact phased_put (phased_elim fun old _ =>
      (old.provider.releaseFully_closing hk host w).phased) a

theorem keepHeadset_fair {hand : Option Provider} (as : String)
    {x : Attempt World LibOVR.HeadsetRuntime} (hb : b.Healthy)
    (hbuilds : ∀ k : Serial, k.IsRecorded →
      x.Builds host k (givenHolds k hand) fun r => r.provider.holds k)
    (hbare : ∀ r, (x.run host b.desk.world).1 = .ok r →
      ∀ k, b.Bare k → r.provider.holds k ≤ givenHolds k hand)
    (hroot : ∀ r, (x.run host b.desk.world).1 = .ok r → r.provider.root.isSome) :
    Fair host hand false b ((keepHeadset as x).run host b).2 := by
  refine fair_of_outcome (fun r => r.provider) hb (fun _ => rfl) hbuilds hbare fun r w hr => ?_
  let w' := (((b.headsets.get? as).elim (pure ()) fun r => r.drop).run host w).2
  have hrun : ((do
      let old := (← get).headsets.get? as
      modify fun b => { b with headsets := b.headsets.put as r }
      dropOld (fun r => r.drop) old
      return .ok (.headset r) : Action Bench Answer).run host (b.putWorld w)).2 =
        { (b.putWorld w).putWorld w' with headsets := b.headsets.put as r } := by
    simp only [Action.run_bind, Action.run_get, Action.run_modify, run_dropOld]
    rfl
  rw [hrun]
  refine fair_headsets (hb.putWorld w) ?_ fun k hk => ?_
  · intro other hother
    rcases Shelf.mem_values_put.mp hother with rfl | hother
    · exact hroot other hr
    · exact hb.headsets other (Shelf.mem_values_of_erase hother)
  · exact phased_put (phased_elim fun old _ => old.drop_phased hk host w) r

theorem AudioCommand.ofProvider_fair {provider : Provider} (as : String) (hb : b.Healthy)
    (hsound : provider.Sound) :
    Fair host (some provider) false b
      ((keepAudio as (OpenAL.AudioLibrary.ofProvider provider)).run host b).2 := by
  refine keepAudio_fair as hb (fun k hk => OpenAL.AudioLibrary.ofProvider_builds hk provider) ?_ ?_
  · intro a ha k _
    rw [(OpenAL.AudioLibrary.ofProvider_ok ha).1]
    exact Nat.le_refl _
  · intro a ha
    obtain ⟨hprovider, hreleased⟩ := OpenAL.AudioLibrary.ofProvider_ok ha
    rw [hprovider]
    exact hsound.root_isSome hreleased

theorem AudioCommand.load_fair (config : Config) (as : String) (hb : b.Healthy) :
    Fair host none false b ((load config as).perform.run host b).2 := by
  refine keepAudio_fair as hb (fun k hk => OpenAL.AudioLibrary.load_builds hk config) ?_ ?_
  · intro a ha k hbare
    obtain ⟨l, hprovider, -⟩ := OpenAL.AudioLibrary.load_ok ha
    rw [hprovider, not_holds_shared hbare l]
    exact Nat.zero_le _
  · intro a ha
    obtain ⟨l, -, hroot⟩ := OpenAL.AudioLibrary.load_ok ha
    exact hroot

theorem withAudio_fair {name : String} {x : OpenAL.AudioLibrary → Action Bench Answer}
    (hb : b.Healthy) (h : ∀ a, (x a).Within (Reads none)) :
    Fair host none false b ((withAudio name x).run host b).2 :=
  withObject_fair hb fun a _ => Reads.fair (h a host b) hb host nofun

theorem AudioCommand.drop_fair {name : String} {a : OpenAL.AudioLibrary} (hb : b.Healthy)
    (ha : b.audio.get? name = some a) :
    Fair host none false b { b.putWorld (a.drop.run host b.desk.world).2 with
      audio := b.audio.erase name } := by
  refine fair_audio hb (fun a ha => hb.audio a (Shelf.mem_values_of_erase ha)) fun k hk => ?_
  rw [givenHolds_none, Nat.zero_add]
  refine phased_erase ?_
  rw [Shelf.weighAt, ha]
  exact (a.provider.releaseFully_closing hk host _).phased

/-- The provider that a command hands over for good, if it gets so far. -/
def AudioCommand.handed (host : Host) (b : Bench) : AudioCommand → Option Provider
  | ofProvider source _ => (source.take.run host b).1.map Held.provider
  | _ => none

theorem AudioCommand.perform_settles (c : AudioCommand) (hb : b.Healthy) :
    Settles host (c.handed host b) b (c.perform.run host b).2 := by
  cases c with
  | ofProvider source as =>
    exact withSource_settles false hb fun held b₁ _ hb₁ hsound => ofProvider_fair as hb₁ hsound
  | load config as => exact (load_fair config as hb).settles
  | check audio =>
    exact (withAudio_fair hb fun a => Action.Within.bind (liftWorld_within a.check_within)
      fun _ => .pure _).settles
  | checkDevice audio device =>
    exact (withAudio_fair hb fun a => Action.Within.bind
      (liftWorld_within (a.checkDevice_within device)) fun _ => .pure _).settles
  | errorText audio code =>
    exact (withAudio_fair hb fun a => (liftWorld_within (a.errorText_within code)).bind
      fun _ => .pure _).settles
  | deviceErrorText audio device code =>
    exact (withAudio_fair hb fun a => (liftWorld_within (a.deviceErrorText_within device code)).bind
      fun _ => .pure _).settles
  | drop audio => exact (withObject_fair hb fun a ha => drop_fair hb ha).settles

theorem HeadsetCommand.ofProvider_fair {provider : Provider} (as : String) (hb : b.Healthy)
    (hsound : provider.Sound) :
    Fair host (some provider) false b
      ((keepHeadset as (LibOVR.HeadsetRuntime.ofProvider provider)).run host b).2 := by
  refine keepHeadset_fair as hb
    (fun k hk => LibOVR.HeadsetRuntime.ofProvider_builds hk provider) ?_ ?_
  · intro r hr k _
    rw [(LibOVR.HeadsetRuntime.ofProvider_ok hr).1]
    exact Nat.le_refl _
  · intro r hr
    obtain ⟨hprovider, hreleased⟩ := LibOVR.HeadsetRuntime.ofProvider_ok hr
    rw [hprovider]
    exact hsound.root_isSome hreleased

theorem HeadsetCommand.load_fair (config : Config) (as : String) (hb : b.Healthy) :
    Fair host none false b ((load config as).perform.run host b).2 := by
  refine keepHeadset_fair as hb (fun k hk => LibOVR.HeadsetRuntime.load_builds hk config) ?_ ?_
  · intro r hr k hbare
    obtain ⟨l, hprovider, -⟩ := LibOVR.HeadsetRuntime.load_ok hr
    rw [hprovider, not_holds_shared hbare l]
    exact Nat.zero_le _
  · intro r hr
    obtain ⟨l, -, hroot⟩ := LibOVR.HeadsetRuntime.load_ok hr
    exact hroot

/-- A runtime may be put in the place of one around the same provider. -/
theorem fair_replaced {name : String} {r r' : LibOVR.HeadsetRuntime} {w : World} (hb : b.Healthy)
    (hr : b.headsets.get? name = some r) (hsame : r'.provider = r.provider)
    (hw : Consulting none b.desk.world w) :
    Fair host none false b { b.putWorld w with headsets := b.headsets.put name r' } := by
  refine fair_headsets hb ?_ fun k hk => ?_
  · intro other hother
    rcases Shelf.mem_values_put.mp hother with rfl | hother
    · rw [hsame]
      exact hb.headsets r (Shelf.mem_values_of_get? hr)
    · exact hb.headsets other (Shelf.mem_values_of_erase hother)
  · have hput := b.headsets.weigh_put (fun r => r.provider.holds k) name r'
    have hat : b.headsets.weighAt (fun r => r.provider.holds k) name = r.provider.holds k := by
      simp [Shelf.weighAt, hr]
    rw [hat, hsame] at hput
    have hweigh := Nat.add_left_cancel hput
    rw [givenHolds_none, Nat.zero_add, hweigh]
    exact (hw.acting host (by simp)).phased

theorem HeadsetCommand.drop_fair {name : String} {r : LibOVR.HeadsetRuntime} (hb : b.Healthy)
    (hr : b.headsets.get? name = some r) :
    Fair host none false b { b.putWorld (r.drop.run host b.desk.world).2 with
      headsets := b.headsets.erase name } := by
  refine fair_headsets hb (fun r hr => hb.headsets r (Shelf.mem_values_of_erase hr))
    fun k hk => ?_
  rw [givenHolds_none, Nat.zero_add]
  refine phased_erase ?_
  rw [Shelf.weighAt, hr]
  exact r.drop_phased hk host _

theorem HeadsetCommand.start_fair {name : String} {r : LibOVR.HeadsetRuntime}
    (flags : LibOVR.StartFlags) (hb : b.Healthy) (hr : b.headsets.get? name = some r) :
    Fair host none false b ((do
      match ← (r.start flags).outcome with
      | .ok started =>
        modify fun b => { b with headsets := b.headsets.put name started }
        return .ok .nothing
      | .error failure => return .failed failure : Action Bench Answer).run host b).2 := by
  have hwithin : Consulting none _ _ := r.start_within flags host b.desk.world
  have hstep : (liftM (r.start flags).outcome : Action Bench _).run host b =
    (((r.start flags).run host b.desk.world).1,
      b.putWorld ((r.start flags).run host b.desk.world).2) := rfl
  rw [Action.run_bind, hstep]
  rcases hrun : (r.start flags).run host b.desk.world with ⟨failure | started, w⟩
  all_goals rw [hrun] at hwithin
  · exact Reads.fair ⟨w, rfl, hwithin⟩ hb host nofun
  · have hstarted : ((r.start flags).run host b.desk.world).1 = .ok started := by rw [hrun]
    exact fair_replaced hb hr (LibOVR.HeadsetRuntime.start_provider hstarted) hwithin

/-- The provider that a command hands over for good, if it gets so far. -/
def HeadsetCommand.handed (host : Host) (b : Bench) : HeadsetCommand → Option Provider
  | ofProvider source _ => (source.take.run host b).1.map Held.provider
  | _ => none

theorem HeadsetCommand.perform_settles (c : HeadsetCommand) (hb : b.Healthy) :
    Settles host (c.handed host b) b (c.perform.run host b).2 := by
  cases c with
  | ofProvider source as =>
    exact withSource_settles false hb fun held b₁ _ hb₁ hsound => ofProvider_fair as hb₁ hsound
  | load config as => exact (load_fair config as hb).settles
  | start headset flags =>
    exact (withObject_fair hb fun r hr => start_fair flags hb hr).settles
  | version headset =>
    refine (withObject_fair hb fun r _ => ?_).settles
    have hreads : Reads none b _ := liftWorld_within r.versionText_within host b
    exact hreads.fair hb host nofun
  | state headset => exact (withObject_fair hb fun r _ => hb.fair_refl host).settles
  | shutdown headset =>
    refine (withObject_fair hb fun r hr => ?_).settles
    exact fair_replaced hb hr (r.shutdown_provider host b.desk.world)
      (r.shutdown_within host b.desk.world)
  | drop headset => exact (withObject_fair hb fun r hr => drop_fair hb hr).settles

end NativeBinding.Scenario
