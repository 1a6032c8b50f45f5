import NativeBinding.Proofs.RuntimeMessages
import NativeBinding.Proofs.Teardown

/-!
What is logged in a run that works with any number of headset runtimes. Only calls of a runtime make
it speak: what loads it, looks its functions up and releases it says nothing about it.
-/
namespace NativeBinding

open LibOVR (IsAbout Mute Tells startLine stopLine)

/-! What is mute. -/

theorem emit_mute {e : Event} (h : ¬ IsAbout e) : (emit e).Within Mute :=
  fun _ _ => ⟨rfl, rfl, [e], rfl, by simpa using h⟩

namespace SharedLibrary

theorem unloadText_other (path : String) (fault : CloseFault) :
    ¬ "LibOVR".toList <+: (unloadText path fault).toList := by
  unfold unloadText
  simp [toString]

theorem release_mute (l : SharedLibrary) : l.release.Within Mute := by
  intro host w
  cases hopened : l.opened with
  | none =>
    rw [release, hopened]
    exact Std.Refl.refl w
  | some opened =>
    rw [l.run_release hopened]
    refine ⟨rfl, rfl, l.releaseEvents host opened (w.handler.map Handler.name), rfl, ?_⟩
    intro e he
    rcases List.mem_cons.mp he with rfl | he
    · exact id
    · cases hfault : (host.closing opened.file).fault? with
      | none => simp [hfault] at he
      | some fault =>
        rw [hfault] at he
        obtain rfl := List.mem_singleton.mp he
        exact unloadText_other l.path fault

end SharedLibrary

namespace Provider

theorem release_mute (provider : Provider) : provider.release.Within Mute := by
  induction provider with
  | supplied p =>
    unfold release
    cases p.isFull with
    | true => exact (emit_mute id).bind fun _ => .pure _
    | false => exact .pure _
  | shared l => exact l.release_mute.bind fun _ => .pure _
  | resolver r inner ih => exact (Action.Within.pure _).ite (ih.bind fun _ => .pure _)

theorem releaseFully_mute (provider : Provider) : provider.releaseFully.Within Mute :=
  provider.release_mute.bind fun _ => .pure _

end Provider

namespace LibOVR.HeadsetRuntime

variable (r : HeadsetRuntime) (host : Host) (w : World)

/-- A runtime that is not started is called for a start, and that it was started is said exactly if
the start is answered so. -/
theorem start_said (flags : StartFlags) :
    ∃ es : List Event, ((r.start flags).run host w).2.history = es.reverse ++ w.history ∧
      ((∃ parameters, .called r.startEntry.library (.ovrStart parameters) ∈ es) ↔
        r.isStarted = false) ∧
      ((∃ flags', startLine w.receiver flags' ∈ es) ↔
        ∃ started, ((r.start flags).run host w).1 = .ok started) := by
  cases h : r.isStarted with
  | true =>
    rw [r.start_of_started host w flags h]
    exact ⟨[], rfl, iff_of_false (by simp) nofun, iff_of_false (by simp) nofun⟩
  | false =>
    obtain ⟨parameters, hcalls⟩ := r.start_says host w flags h
    obtain ⟨es, hhistory, hcall, hstart, -⟩ := hcalls.said
    refine ⟨es, hhistory, iff_of_true ⟨parameters, hcall⟩ rfl, ?_⟩
    rw [hstart, (r.start_of_stopped host w flags h).1]
    by_cases hnegative : r.nextResult w < 0
    · rw [if_pos hnegative]
      refine iff_of_false ?_ nofun
      rintro ⟨-, -, hsuccess⟩
      exact Int32.not_lt.mpr hsuccess hnegative
    · rw [if_neg hnegative]
      exact iff_of_true ⟨parameters, rfl, Int32.not_lt.mp hnegative⟩ ⟨_, rfl⟩

/-- That a runtime was shut down is said exactly if it was started. -/
theorem shutdown_said :
    ∃ es : List Event, (r.shutdown.run host w).2.history = es.reverse ++ w.history ∧
      (stopLine w.receiver ∈ es ↔ r.isStarted = true) := by
  cases h : r.isStarted with
  | true =>
    obtain ⟨es, hhistory, -, -, hstop⟩ := (r.shutdown_says host w h).said
    exact ⟨es, hhistory, iff_of_true (hstop.mpr rfl) rfl⟩
  | false =>
    rw [r.shutdown_of_stopped host w h]
    exact ⟨[], rfl, iff_of_false List.not_mem_nil nofun⟩

theorem drop_said :
    ∃ es : List Event, (r.drop.run host w).2.history = es.reverse ++ w.history ∧
      (stopLine w.receiver ∈ es ↔ r.isStarted = true) := by
  obtain ⟨es, hhistory, hstop⟩ := r.shutdown_said host w
  obtain ⟨-, -, quiet, hquiet, hother⟩ :=
    (r.shutdown.run host w).1.provider.releaseFully_mute host (r.shutdown.run host w).2
  refine ⟨es ++ quiet, ?_, ?_⟩
  · rw [List.reverse_append, List.append_assoc, ← hhistory]
    exact hquiet
  · rw [List.mem_append, or_iff_left, hstop]
    intro hmem
    exact hother _ hmem (by simp [stopLine, IsAbout])

end LibOVR.HeadsetRuntime

namespace Scenario

open LibOVR (HeadsetRuntime runtimesOf Told)
open OpenCL (Desk OwnerId)

variable {host : Host} {b : Bench} {name : String} {r : HeadsetRuntime}

/-! Commands. -/

theorem run_liftOutcome {α : Type} (x : Attempt World α) (host : Host) (b : Bench) :
    (liftM x.outcome : Action Bench (Except Failure α)).run host b =
      ((x.run host b.desk.world).1, b.putWorld (x.run host b.desk.world).2) := rfl

theorem run_withHeadset (hr : b.headsets.get? name = some r)
    (x : HeadsetRuntime → Action Bench Answer) (host : Host) :
    (withHeadset name x).run host b = (x r).run host b := by
  simp only [withHeadset, Action.run_bind, Action.run_get, hr, withObject]

theorem run_withHeadset_none (hr : b.headsets.get? name = none)
    (x : HeadsetRuntime → Action Bench Answer) (host : Host) :
    (withHeadset name x).run host b = (.noHandle, b) := by
  simp only [withHeadset, Action.run_bind, Action.run_get, hr]
  rfl

/-- A start is answered by whether it came off. -/
theorem run_start (hr : b.headsets.get? name = some r) (flags : LibOVR.StartFlags) (host : Host) :
    ((HeadsetCommand.start name flags).perform.run host b).2.desk.world =
        ((r.start flags).run host b.desk.world).2 ∧
      (((HeadsetCommand.start name flags).perform.run host b).1 = .ok .nothing ↔
        ∃ started, ((r.start flags).run host b.desk.world).1 = .ok started) := by
  rw [HeadsetCommand.perform, run_withHeadset hr, Action.run_bind, run_liftOutcome]
  rcases (r.start flags).run host b.desk.world with ⟨failure | started, w⟩
  · exact ⟨rfl, iff_of_false nofun nofun⟩
  · exact ⟨rfl, iff_of_true rfl ⟨started, rfl⟩⟩

/-- The line about a start is there exactly if the start is answered to have come off: not if it
failed, nor if there was nothing to do. -/
theorem startLine_iff (b : Bench) (host : Host) (name : String) (flags : LibOVR.StartFlags) :
    (∃ flags', startLine b.receiver flags' ∈
        Turn.events b ⟨host, .headset (.start name flags)⟩) ↔
      Turn.answer b ⟨host, .headset (.start name flags)⟩ = .ok .nothing := by
  let t : Turn := ⟨host, .headset (.start name flags)⟩
  cases hr : b.headsets.get? name with
  | none =>
    have hrun : t.command.perform.run host b = (.noHandle, b) := run_withHeadset_none hr _ host
    have hevents : t.events b = [] := observed_events (by rw [hrun]; rfl)
    rw [hevents, Turn.answer, hrun]
    exact iff_of_false (by simp) (by simp)
  | some r =>
    obtain ⟨hworld, hanswer⟩ := run_start hr flags host
    obtain ⟨es, hhistory, -, hstart⟩ := r.start_said host b.desk.world flags
    have hevents : t.events b = es :=
      observed_events ((congrArg World.history hworld).trans hhistory)
    rw [hevents]
    exact hstart.trans hanswer.symm

/-- The line about a shutdown is there exactly if there was a started runtime to shut down. -/
theorem stopLine_iff {c : HeadsetCommand} (hc : c = .shutdown name ∨ c = .drop name) (b : Bench)
    (host : Host) : stopLine b.receiver ∈ Turn.events b ⟨host, .headset c⟩ ↔
      ∃ r, b.headsets.get? name = some r ∧ r.isStarted = true := by
  let t : Turn := ⟨host, .headset c⟩
  cases hr : b.headsets.get? name with
  | none =>
    have hrun : t.command.perform.run host b = (.noHandle, b) := by
      rcases hc with rfl | rfl <;> exact run_withHeadset_none hr _ host
    have hevents : t.events b = [] := observed_events (by rw [hrun]; rfl)
    rw [hevents]
    exact iff_of_false List.not_mem_nil nofun
  | some r =>
    have hsaid : ∃ es : List Event, (t.next b).desk.world.history =
        es.reverse ++ b.desk.world.history ∧
          (stopLine b.receiver ∈ es ↔ r.isStarted = true) := by
      rcases hc with rfl | rfl
      · have hworld : (t.next b).desk.world = (r.shutdown.run host b.desk.world).2 :=
          congrArg (fun answered => answered.2.desk.world) (run_withHeadset hr _ host)
        rw [hworld]
        exact r.shutdown_said host b.desk.world
      · have hworld : (t.next b).desk.world = (r.drop.run host b.desk.world).2 :=
          congrArg (fun answered => answered.2.desk.world) (run_withHeadset hr _ host)
        rw [hworld]
        exact r.drop_said host b.desk.world
    obtain ⟨es, hhistory, hstop⟩ := hsaid
    have hevents : t.events b = es := observed_events hhistory
    rw [hevents, hstop]
    simp

end Scenario

end NativeBinding
