import NativeBinding.Proofs.Soundness

/-!
Signals: the calls that start a headset runtime or shut it down, each start with the result it has.
A runtime gives at most one signal in each use, and which one hangs on whether it is started.
-/
namespace NativeBinding.LibOVR

open Native (popCode)

/-- A native call that starts a runtime, with its result, or one that shuts it down. -/
inductive Signal where
  | start (result : Int32)
  | shutdown
  deriving DecidableEq

/-- A start succeeds unless its result is negative; a positive result is a warning. -/
def Signal.IsSuccess : Signal → Prop
  | start result => 0 ≤ result
  | shutdown => False

instance : DecidablePred Signal.IsSuccess
  | .start result => inferInstanceAs (Decidable (0 ≤ result))
  | .shutdown => inferInstanceAs (Decidable False)

/-- The signals among some events, where starts have these results, one each. -/
def signalsOf : List Int32 → List Event → List Signal
  | _, [] => []
  | results, .called _ (.ovrStart _) :: es =>
    .start (popCode results).1 :: signalsOf (popCode results).2 es
  | results, .called _ .ovrShutdown :: es => .shutdown :: signalsOf results es
  | results, _ :: es => signalsOf results es

/-- What happened from one world to a later one. -/
def eventsBetween (w w' : World) : List Event :=
  (w'.history.take (w'.history.length - w.history.length)).reverse

/-- The signals from one world to a later one, given by a runtime that is started through the
library `k`. -/
def signalsBetween (k : LibraryId) (w w' : World) : List Signal :=
  signalsOf (w.startResults k) (eventsBetween w w')

/-- Signals in an order that a runtime keeps to: whether it is started before the first of them, and
whether it is after the last. -/
inductive Ordered : Bool → List Signal → Bool → Prop
  | nil (started : Bool) : Ordered started [] started
  | failure {result : Int32} {signals : List Signal} {started : Bool} (h : result < 0)
      (rest : Ordered false signals started) : Ordered false (.start result :: signals) started
  | success {result : Int32} {signals : List Signal} {started : Bool} (h : 0 ≤ result)
      (rest : Ordered true signals started) : Ordered false (.start result :: signals) started
  | shutdown {signals : List Signal} {started : Bool} (rest : Ordered false signals started) :
      Ordered true (.shutdown :: signals) started

namespace Ordered

variable {a b c : Bool} {signals earlier later : List Signal} {result : Int32}

theorem append (h : Ordered a earlier b) (h' : Ordered b later c) :
    Ordered a (earlier ++ later) c := by
  induction h with
  | nil => exact h'
  | failure h _ ih => exact .failure h (ih h')
  | success h _ ih => exact .success h (ih h')
  | shutdown _ ih => exact .shutdown (ih h')

theorem of_append (h : Ordered a (earlier ++ later) c) :
    ∃ b, Ordered a earlier b ∧ Ordered b later c := by
  induction earlier generalizing a with
  | nil => exact ⟨a, .nil a, h⟩
  | cons signal earlier ih =>
    cases h with
    | failure hresult rest =>
      obtain ⟨b, hearlier, hlater⟩ := ih rest
      exact ⟨b, .failure hresult hearlier, hlater⟩
    | success hresult rest =>
      obtain ⟨b, hearlier, hlater⟩ := ih rest
      exact ⟨b, .success hresult hearlier, hlater⟩
    | shutdown rest =>
      obtain ⟨b, hearlier, hlater⟩ := ih rest
      exact ⟨b, .shutdown hearlier, hlater⟩

/-- A shutdown comes right after a successful start. -/
theorem getLast?_of_started (h : Ordered false signals true) :
    ∃ signal ∈ signals.getLast?, signal.IsSuccess := by
  rcases signals.eq_nil_or_concat with rfl | ⟨earlier, last, rfl⟩
  · cases h
  · rw [List.concat_eq_append] at h ⊢
    obtain ⟨b, -, hlast⟩ := of_append h
    refine ⟨last, List.getLast?_concat, ?_⟩
    cases hlast with
    | failure _ rest => cases rest
    | success hresult _ => exact hresult
    | shutdown rest => cases rest

/-- A runtime is started exactly if the last of its signals was a successful start. -/
theorem started_iff (h : Ordered false signals b) :
    b = true ↔ ∃ signal ∈ signals.getLast?, signal.IsSuccess := by
  constructor
  · rintro rfl
    exact h.getLast?_of_started
  · rintro ⟨last, hlast, hsuccess⟩
    obtain ⟨earlier, rfl⟩ := List.getLast?_eq_some_iff.mp hlast
    obtain ⟨c, -, hend⟩ := of_append h
    cases hend with
    | failure hresult _ => exact absurd hresult (Int32.not_lt.mpr hsuccess)
    | success _ rest =>
      cases rest
      rfl
    | shutdown => exact hsuccess.elim

/-- While a runtime is started nothing comes but its shutdown. -/
theorem head?_of_started (h : Ordered true signals false) : signals.head? = some .shutdown := by
  cases h with
  | shutdown => rfl

/-- Every successful start is paid back by one shutdown, but for one that is still to come. -/
theorem count_shutdown (h : Ordered a signals b) :
    signals.countP (·.IsSuccess) + a.toNat = signals.count .shutdown + b.toNat := by
  induction h with
  | nil => simp
  | @failure result signals started hresult rest ih =>
    have hfails : ¬ Signal.IsSuccess (.start result) := Int32.not_le.mpr hresult
    simpa [hfails] using ih
  | @success result signals started hresult rest ih =>
    have hsucceeds : Signal.IsSuccess (.start result) := hresult
    simp [hsucceeds] at ih ⊢
    omega
  | @shutdown signals started rest ih =>
    have hfails : ¬ Signal.IsSuccess .shutdown := id
    simp [hfails] at ih ⊢
    omega

end Ordered

/-- The event is no signal. -/
def IsQuiet : Event → Prop
  | .called _ (.ovrStart _) | .called _ .ovrShutdown => False
  | _ => True

theorem isQuiet_of_isUse {e : Event} (h : e.isUse = false) : IsQuiet e := by
  cases e <;> trivial

theorem signalsOf_cons_quiet {results : List Int32} {e : Event} {es : List Event}
    (h : IsQuiet e) : signalsOf results (e :: es) = signalsOf results es := by
  unfold IsQuiet at h
  split at h
  · exact h.elim
  · exact h.elim
  · rw [signalsOf] <;> simp_all

theorem signalsOf_quiet {results : List Int32} {es : List Event} (h : ∀ e ∈ es, IsQuiet e) :
    signalsOf results es = [] := by
  induction es with
  | nil => rfl
  | cons e es ih =>
    rw [signalsOf_cons_quiet (h e List.mem_cons_self)]
    exact ih fun e he => h e (List.mem_cons_of_mem _ he)

theorem signalsOf_append_quiet {results : List Int32} {es quiet : List Event}
    (h : ∀ e ∈ quiet, IsQuiet e) : signalsOf results (es ++ quiet) = signalsOf results es := by
  fun_induction signalsOf results es with
  | case1 results => exact signalsOf_quiet h
  | case2 results k parameters es ih => rw [List.cons_append, signalsOf, ih]
  | case3 results k es ih => rw [List.cons_append, signalsOf, ih]
  | case4 results e es hstart hshutdown ih =>
    rw [List.cons_append, signalsOf, ih]
    · exact hstart
    · exact hshutdown

theorem eventsBetween_eq {w w' : World} {es : List Event}
    (h : w'.history = es.reverse ++ w.history) : eventsBetween w w' = es := by
  simp only [eventsBetween, h, List.length_append, Nat.add_sub_cancel, List.take_left',
    List.reverse_reverse]

/-- On the way from one world to the other a runtime gives these signals. -/
def Signals (k : LibraryId) (signals : List Signal) (w w' : World) : Prop :=
  ∃ es : List Event, w'.history = es.reverse ++ w.history ∧
    signalsOf (w.startResults k) es = signals

/-- No signal is given, and the results of coming starts stay as they are. -/
def Silent (w w' : World) : Prop :=
  w'.startResults = w.startResults ∧ Recording IsQuiet w w'

instance : IsPreorder World Silent where
  refl w := ⟨rfl, Std.Refl.refl w⟩
  trans _ _ _ h h' := ⟨h'.1.trans h.1, IsTrans.trans _ _ _ h.2 h'.2⟩

variable {k : LibraryId} {signals : List Signal} {w w' w'' : World}

theorem Signals.eq (h : Signals k signals w w') : signalsBetween k w w' = signals := by
  obtain ⟨es, hhistory, hsignals⟩ := h
  rw [signalsBetween, eventsBetween_eq hhistory, hsignals]

theorem Signals.of_silent (k : LibraryId) (h : Silent w w') : Signals k [] w w' := by
  obtain ⟨-, es, hhistory, -, hes⟩ := h
  exact ⟨es, hhistory, signalsOf_quiet hes⟩

/-- What uses nothing native gives no signal. -/
theorem Signals.then_unused (h : Signals k signals w w') {es : List Event}
    (hhistory : w''.history = es.reverse ++ w'.history) (hes : ∀ e ∈ es, IsQuiet e) :
    Signals k signals w w'' := by
  obtain ⟨earlier, hearlier, hsignals⟩ := h
  refine ⟨earlier ++ es, by simp [hhistory, hearlier], ?_⟩
  rw [signalsOf_append_quiet hes, hsignals]

theorem Signals.then_silent (h : Signals k signals w w') (h' : Silent w' w'') :
    Signals k signals w w'' := by
  obtain ⟨-, es, hhistory, -, hes⟩ := h'
  exact h.then_unused hhistory hes

theorem log_silent (level : LogLevel) (text : String) : (log level text).Within Silent :=
  fun host w => ⟨rfl, log_recording (fun _ => trivial) host w⟩

theorem forward_silent (m : RuntimeMessage) : (forward m).Within Silent := by
  unfold forward
  cases m.text with
  | none => exact .pure _
  | some text => exact log_silent _ _

theorem report_silent (k : LibraryId) (messages : List RuntimeMessage) :
    (Native.report forward k messages).Within Silent :=
  Action.Within.get.bind fun _ => (Action.Within.forM fun m _ => forward_silent m).ite (.pure _)

/-- What follows a call silently adds nothing to it but events that are no signals. -/
theorem Silent.events_after {called : World} (call : Event) (h : Silent called w')
    (hcalled : called.history = call :: w.history) :
    ∃ es : List Event, w'.history = (call :: es).reverse ++ w.history ∧ ∀ e ∈ es, IsQuiet e := by
  obtain ⟨-, es, hhistory, -, hes⟩ := h
  exact ⟨es, by simp [hhistory, hcalled], hes⟩

/-- A start of the native runtime is one signal, with the oldest result that is left. -/
theorem ovrStart_signals (e : Entry .ovrStart) (parameters : StartParameters) (host : Host)
    (w : World) :
    ((Native.ovrStart forward e parameters).run host w).1 =
        (popCode (w.startResults e.library)).1 ∧
      Signals e.library [.start (popCode (w.startResults e.library)).1] w
        ((Native.ovrStart forward e parameters).run host w).2 := by
  let call : Event := .called e.library (.ovrStart parameters)
  let called : World := { w with
    history := call :: w.history
    hasCallback := assign w.hasCallback e.library parameters.hasCallback }
  have hsilent := report_silent e.library (host.library e.library).runtime.startMessages host called
  constructor
  · exact congrArg (fun results => (popCode (results e.library)).1) hsilent.1
  · obtain ⟨es, hhistory, hes⟩ := hsilent.events_after call (w := w) rfl
    exact ⟨call :: es, hhistory, by rw [signalsOf, signalsOf_quiet hes]⟩

theorem ovrShutdown_signals (k : LibraryId) (e : Entry .ovrShutdown) (host : Host) (w : World) :
    Signals k [.shutdown] w ((Native.ovrShutdown forward e).run host w).2 := by
  let call : Event := .called e.library .ovrShutdown
  have hsilent := report_silent e.library (host.library e.library).runtime.shutdownMessages host
    { w with history := call :: w.history }
  obtain ⟨es, hhistory, hes⟩ := hsilent.events_after call (w := w) rfl
  exact ⟨call :: es, hhistory, by rw [signalsOf, signalsOf_quiet hes]⟩

namespace HeadsetRuntime

variable (r : HeadsetRuntime) (host : Host) (w : World)

/-- The result that the next start of the native runtime will have. -/
def nextResult : Int32 := (popCode (w.startResults r.startEntry.library)).1

/-- A runtime that is started is not started again. -/
theorem start_of_started (flags : StartFlags) (h : r.isStarted = true) :
    (r.start flags).run host w = (.error .alreadyStarted, w) := by
  rw [start, Attempt.run_ite, if_pos h]
  rfl

/-- A runtime that is not started is started by one native call, whose result decides. -/
theorem start_of_stopped (flags : StartFlags) (h : r.isStarted = false) :
    ((r.start flags).run host w).1 = (if r.nextResult w < 0 then .error (.ovr (r.nextResult w))
        else .ok { r with isStarted := true }) ∧
      Signals r.startEntry.library [.start (r.nextResult w)] w
        ((r.start flags).run host w).2 := by
  let parameters : StartParameters :=
    { flags := flags.bits, requestedMinorVersion := minorVersion, hasCallback := true }
  obtain ⟨hresult, hsignals⟩ : ((Native.ovrStart forward r.startEntry parameters).run host w).1 =
      r.nextResult w ∧ Signals r.startEntry.library [.start (r.nextResult w)] w
        ((Native.ovrStart forward r.startEntry parameters).run host w).2 :=
    ovrStart_signals r.startEntry parameters host w
  rw [start, Attempt.run_ite, if_neg (by simp [h]), Attempt.run_bind, Attempt.run_liftM]
  dsimp only
  rw [hresult, Attempt.run_ite]
  by_cases hnegative : r.nextResult w < 0
  · rw [if_pos hnegative, if_pos hnegative]
    exact ⟨rfl, hsignals⟩
  · rw [if_neg hnegative, if_neg hnegative]
    exact ⟨rfl, hsignals.then_silent (log_silent _ _ host _)⟩

theorem versionText_silent : r.versionText.Within Silent := by
  intro host w
  let call : Event := .called r.versionEntry.library .ovrVersion
  have hquiet : IsQuiet call := trivial
  have hcall : Silent w { w with history := call :: w.history } :=
    ⟨rfl, emit_within hquiet host w⟩
  exact IsTrans.trans _ _ _ hcall (report_silent r.versionEntry.library
    (host.library r.versionEntry.library).runtime.versionMessages host _)

/-- A shutdown is one signal if the runtime is started, and else nothing. -/
theorem shutdown_signals (k : LibraryId) :
    Signals k (if r.isStarted then [.shutdown] else []) w (r.shutdown.run host w).2 := by
  rw [shutdown, Action.run_ite]
  split
  · exact (ovrShutdown_signals k r.shutdownEntry host w).then_silent (log_silent _ _ host _)
  · exact ⟨[], rfl, rfl⟩

theorem shutdown_eq : (r.shutdown.run host w).1 = { r with isStarted := false } := by
  rw [shutdown, Action.run_ite]
  split
  · rfl
  · rename_i hstopped
    cases r
    simp_all

/-- Dropping a runtime signals what shutting it down does. -/
theorem drop_signals (k : LibraryId) :
    Signals k (if r.isStarted then [.shutdown] else []) w (r.drop.run host w).2 := by
  obtain ⟨es, hconduct, hes⟩ := (r.shutdown.run host w).1.provider.releaseFully_closing
    (Serial.isRecorded_library 0) host (r.shutdown.run host w).2
  exact (r.shutdown_signals host w k).then_unused hconduct.history
    fun e he => isQuiet_of_isUse (hes e he)

end HeadsetRuntime

end NativeBinding.LibOVR
