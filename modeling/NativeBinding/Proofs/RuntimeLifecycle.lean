import NativeBinding.Proofs.Signals

/-!
The life of a headset runtime, from its loading through any uses to its end. Every use meets a host
and a world of its own: whatever happened since the one before, and whatever results the coming
starts have.
-/
namespace NativeBinding.LibOVR

inductive Use where
  | start (flags : StartFlags)
  | versionText
  | isStarted
  | shutdown

inductive Answer where
  | start (outcome : Except Failure Unit)
  | versionText (text : Option String)
  | isStarted (started : Bool)
  | shutdown

/-- Uses a runtime: the answer, and the runtime as it is then. -/
def Use.perform (r : HeadsetRuntime) : Use → Action World (Answer × HeadsetRuntime)
  | start flags => do
    match ← (r.start flags).outcome with
    | .ok started => return (.start (.ok ()), started)
    | .error failure => return (.start (.error failure), r)
  | versionText => do return (.versionText (← r.versionText), r)
  | isStarted => return (.isStarted r.isStarted, r)
  | shutdown => do return (.shutdown, ← r.shutdown)

/-- A use, with the host and the world that it meets. -/
structure Occasion where
  host : Host
  world : World
  use : Use

namespace Occasion

def next (r : HeadsetRuntime) (o : Occasion) : HeadsetRuntime :=
  ((o.use.perform r).run o.host o.world).1.2

/-- The signals that the use gives. -/
def signals (r : HeadsetRuntime) (o : Occasion) : List Signal :=
  signalsBetween r.startEntry.library o.world ((o.use.perform r).run o.host o.world).2

end Occasion

namespace HeadsetRuntime

/-- The runtime after some uses. -/
def used (r : HeadsetRuntime) (occasions : List Occasion) : HeadsetRuntime :=
  occasions.foldl Occasion.next r

/-- The signals that some uses give, in order. -/
def signalsOn (r : HeadsetRuntime) : List Occasion → List Signal
  | [] => []
  | o :: occasions => o.signals r ++ (o.next r).signalsOn occasions

/-- The signals that the end of a runtime gives. -/
def lastSignals (r : HeadsetRuntime) (host : Host) (w : World) : List Signal :=
  signalsBetween r.startEntry.library w (r.drop.run host w).2

/-- All signals of a runtime that is dropped after some uses. -/
def allSignals (r : HeadsetRuntime) (occasions : List Occasion) (host : Host) (w : World) :
    List Signal :=
  r.signalsOn occasions ++ (r.used occasions).lastSignals host w

/-- The last signal that these uses gave was a start, and it succeeded. -/
def StartedBy (r : HeadsetRuntime) (occasions : List Occasion) : Prop :=
  ∃ signal ∈ (r.signalsOn occasions).getLast?, signal.IsSuccess

/-- The runtime is as it was made. -/
inductive Made (r : HeadsetRuntime) : Prop
  | ofProvider (provider : Provider) (host : Host) (w : World)
      (h : ((HeadsetRuntime.ofProvider provider).run host w).1 = .ok r)
  | load (config : Config) (host : Host) (w : World)
      (h : ((HeadsetRuntime.load config).run host w).1 = .ok r)

variable {r : HeadsetRuntime} {host : Host} {w : World} {occasions : List Occasion}

theorem isStarted_of_ofProvider {provider : Provider}
    (h : ((ofProvider provider).run host w).1 = .ok r) : r.isStarted = false := by
  rw [ofProvider, OpenCL.releasedOnFailure_answer] at h
  refine Attempt.Gives.bind (p := fun r => r.isStarted = false) ?_ host w r h
  exact fun _ => .bind fun _ => .bind fun _ => .pure rfl

theorem Made.isStarted_eq_false (h : r.Made) : r.isStarted = false := by
  cases h with
  | ofProvider provider host w h => exact isStarted_of_ofProvider h
  | load config host w h =>
    rw [HeadsetRuntime.load, Attempt.run_bind] at h
    rcases hload : (SharedLibrary.load config.libOVRLibrary []).run host w with ⟨_ | l, w'⟩
    · simp [hload] at h
    · rw [hload] at h
      exact isStarted_of_ofProvider h

theorem perform_start (r : HeadsetRuntime) (flags : StartFlags) (host : Host) (w : World) :
    ((Use.start flags).perform r).run host w =
      match (r.start flags).run host w with
      | (.ok started, w') => ((.start (.ok ()), started), w')
      | (.error failure, w') => ((.start (.error failure), r), w') := by
  rcases hrun : (r.start flags).run host w with ⟨outcome, w'⟩
  rw [Use.perform, Action.run_bind, Attempt.run_outcome, hrun]
  cases outcome <;> rfl

theorem perform_start_of_started (flags : StartFlags) (host : Host) (w : World)
    (h : r.isStarted = true) :
    ((Use.start flags).perform r).run host w = ((.start (.error .alreadyStarted), r), w) := by
  rw [perform_start, start_of_started r host w flags h]

/-- A start that is tried gives one signal. It changes the runtime only if it succeeds. -/
theorem perform_start_of_stopped (flags : StartFlags) (host : Host) (w : World)
    (h : r.isStarted = false) :
    Signals r.startEntry.library [.start (r.nextResult w)] w
        (((Use.start flags).perform r).run host w).2 ∧
      (((Use.start flags).perform r).run host w).1 =
        if r.nextResult w < 0 then (.start (.error (.ovr (r.nextResult w))), r)
        else (.start (.ok ()), { r with isStarted := true }) := by
  obtain ⟨hanswer, hsignals⟩ := start_of_stopped r host w flags h
  rw [perform_start]
  rcases hrun : (r.start flags).run host w with ⟨outcome, w'⟩
  rw [hrun] at hanswer hsignals
  subst hanswer
  by_cases hnegative : r.nextResult w < 0
  · simp only [hnegative, if_true]
    exact ⟨hsignals, trivial⟩
  · simp only [hnegative, if_false]
    exact ⟨hsignals, trivial⟩

/-- No use breaks the order of signals. -/
theorem ordered_perform (r : HeadsetRuntime) (use : Use) (host : Host) (w : World) :
    ∃ signals, Signals r.startEntry.library signals w ((use.perform r).run host w).2 ∧
      Ordered r.isStarted signals ((use.perform r).run host w).1.2.isStarted := by
  cases use with
  | versionText => exact ⟨[], .of_silent _ (r.versionText_silent host w), .nil _⟩
  | isStarted => exact ⟨[], ⟨[], rfl, rfl⟩, .nil _⟩
  | shutdown =>
    refine ⟨_, r.shutdown_signals host w _, ?_⟩
    change Ordered r.isStarted _ (r.shutdown.run host w).1.isStarted
    rw [shutdown_eq]
    cases r.isStarted with
    | true => exact .shutdown (.nil false)
    | false => exact .nil false
  | start flags =>
    cases hstarted : r.isStarted with
    | true =>
      rw [perform_start_of_started flags host w hstarted]
      exact ⟨[], ⟨[], rfl, rfl⟩, hstarted ▸ .nil _⟩
    | false =>
      obtain ⟨hsignals, hanswer⟩ := perform_start_of_stopped flags host w hstarted
      refine ⟨_, hsignals, ?_⟩
      rw [hanswer]
      by_cases hnegative : r.nextResult w < 0
      · rw [if_pos hnegative]
        exact .failure hnegative (hstarted ▸ .nil _)
      · rw [if_neg hnegative]
        exact .success (Int32.not_lt.mp hnegative) (.nil true)

theorem ordered_signals (r : HeadsetRuntime) (o : Occasion) :
    Ordered r.isStarted (o.signals r) (o.next r).isStarted := by
  obtain ⟨signals, hsignals, hordered⟩ := ordered_perform r o.use o.host o.world
  rw [Occasion.signals, hsignals.eq]
  exact hordered

/-- Nor does any sequence of uses. -/
theorem ordered_signalsOn (r : HeadsetRuntime) (occasions : List Occasion) :
    Ordered r.isStarted (r.signalsOn occasions) (r.used occasions).isStarted := by
  induction occasions generalizing r with
  | nil => exact .nil _
  | cons o occasions ih => exact (ordered_signals r o).append (ih (o.next r))

/-- A runtime is left as it should be: not started. -/
theorem ordered_lastSignals (r : HeadsetRuntime) (host : Host) (w : World) :
    Ordered r.isStarted (r.lastSignals host w) false := by
  rw [lastSignals, (r.drop_signals host w _).eq]
  cases r.isStarted with
  | true => exact .shutdown (.nil false)
  | false => exact .nil false

theorem ordered_allSignals (r : HeadsetRuntime) (occasions : List Occasion) (host : Host)
    (w : World) : Ordered r.isStarted (r.allSignals occasions host w) false :=
  (r.ordered_signalsOn occasions).append ((r.used occasions).ordered_lastSignals host w)

theorem isStarted_used_iff (h : r.isStarted = false) :
    (r.used occasions).isStarted = true ↔ r.StartedBy occasions :=
  Ordered.started_iff (h ▸ r.ordered_signalsOn occasions)

/-- What holds of a runtime through its whole life. -/
structure Alternates (r : HeadsetRuntime) : Prop where
  /-- A shutdown comes right after a start that succeeded. -/
  shutdown_follows : ∀ occasions host w earlier later,
    r.allSignals occasions host w = earlier ++ .shutdown :: later →
      ∃ signal ∈ earlier.getLast?, signal.IsSuccess
  /-- Right after a start that succeeded comes the shutdown. -/
  success_precedes : ∀ occasions host w earlier result later,
    r.allSignals occasions host w = earlier ++ .start result :: later → 0 ≤ result →
      later.head? = some .shutdown
  /-- In the end there were as many shutdowns as starts that succeeded. -/
  balanced : ∀ occasions host w, (r.allSignals occasions host w).count .shutdown =
    (r.allSignals occasions host w).countP (·.IsSuccess)
  /-- The runtime says that it is started from a start that succeeded up to the shutdown. -/
  says_started : ∀ occasions host w, ∃ started,
    (Use.isStarted.perform (r.used occasions)).run host w =
        ((.isStarted started, r.used occasions), w) ∧
      (started = true ↔ r.StartedBy occasions)
  /-- While it is started a start is refused, and nothing happens. -/
  refuses : ∀ occasions, r.StartedBy occasions → ∀ flags host w,
    ((Use.start flags).perform (r.used occasions)).run host w =
      ((.start (.error .alreadyStarted), r.used occasions), w)
  /-- While it is not started a start is one native call. A negative result is the answer and leaves
  the runtime as it was; from any other on it is started. -/
  tries : ∀ occasions, ¬ r.StartedBy occasions → ∀ flags host w,
    Occasion.signals (r.used occasions) ⟨host, w, .start flags⟩ =
        [.start ((r.used occasions).nextResult w)] ∧
      (((Use.start flags).perform (r.used occasions)).run host w).1 =
        if (r.used occasions).nextResult w < 0 then
          (.start (.error (.ovr ((r.used occasions).nextResult w))), r.used occasions)
        else (.start (.ok ()), { r.used occasions with isStarted := true })

/-- Starts that succeed and shutdowns alternate in the life of every runtime, the end included. -/
theorem alternates_of_made (h : r.Made) : r.Alternates := by
  have hstopped := h.isStarted_eq_false
  have hall : ∀ occasions host w, Ordered false (r.allSignals occasions host w) false :=
    fun occasions host w => hstopped ▸ r.ordered_allSignals occasions host w
  constructor
  case shutdown_follows =>
    intro occasions host w earlier later heq
    obtain ⟨b, hearlier, hlater⟩ := Ordered.of_append (heq ▸ hall occasions host w)
    cases hlater with
    | shutdown => exact hearlier.getLast?_of_started
  case success_precedes =>
    intro occasions host w earlier result later heq hsuccess
    obtain ⟨b, -, hlater⟩ := Ordered.of_append (heq ▸ hall occasions host w)
    cases hlater with
    | failure hnegative _ => exact absurd hnegative (Int32.not_lt.mpr hsuccess)
    | success _ rest => exact rest.head?_of_started
  case balanced =>
    intro occasions host w
    have hcount := (hall occasions host w).count_shutdown
    simpa using hcount.symm
  case says_started =>
    intro occasions host w
    exact ⟨(r.used occasions).isStarted, rfl, isStarted_used_iff hstopped⟩
  case refuses =>
    intro occasions hstarted flags host w
    exact perform_start_of_started flags host w ((isStarted_used_iff hstopped).mpr hstarted)
  case tries =>
    intro occasions hnot flags host w
    have hfalse : (r.used occasions).isStarted = false := by
      rw [Bool.eq_false_iff]
      exact fun hstarted => hnot ((isStarted_used_iff hstopped).mp hstarted)
    obtain ⟨hsignals, hanswer⟩ := perform_start_of_stopped flags host w hfalse
    exact ⟨hsignals.eq, hanswer⟩

/-- A runtime whose functions all come from one library. -/
theorem alternates_of_made_exporting :
    let library : NativeLibrary := {
      symbol := fun name => (NativeFunction.ofName? name).elim .null fun f => .entry 0 f }
    let r : HeadsetRuntime :=
      ⟨.supplied { number := 0, library := 0, isFull := true }, ⟨0⟩, ⟨0⟩, ⟨0⟩, false⟩
    ((ofProvider r.provider).run (.ofLists [library] []) (.initial (.ofLists [library] []) none)).1
        = .ok r ∧ r.Alternates := by
  intro library r
  have hmade : ((ofProvider r.provider).run (.ofLists [library] [])
      (.initial (.ofLists [library] []) none)).1 = .ok r := rfl
  exact ⟨hmade, alternates_of_made (.ofProvider r.provider _ _ hmade)⟩

end HeadsetRuntime

end NativeBinding.LibOVR
