import NativeBinding.Proofs.Decoding
import NativeBinding.Proofs.Deliveries
import NativeBinding.Proofs.Signals

/-!
What is logged of headset runtimes: everything that they report while they are called, and after it
that a start or a shutdown came off.
-/
namespace NativeBinding.LibOVR

open Native (popCode)
open Text.Utf8 (ReadsAs untilNul)

/-- The severity of a level that a runtime reports. -/
inductive Severity : Int32 → LogLevel → Prop
  | debug : Severity 0 .debug
  | error : Severity 2 .error
  | other {level : Int32} (hdebug : level ≠ 0) (herror : level ≠ 2) : Severity level .info

/-- What reported messages come to in the log: a line for each one with a text, in order. -/
inductive Shown (receiver : Option String) : List RuntimeMessage → List Event → Prop
  | nil : Shown receiver [] []
  | silent {level : Int32} {messages : List RuntimeMessage} {lines : List Event}
      (rest : Shown receiver messages lines) : Shown receiver (⟨level, none⟩ :: messages) lines
  | line {level : Int32} {severity : LogLevel} {bytes : List UInt8} {text : String}
      {messages : List RuntimeMessage} {lines : List Event} (hlevel : Severity level severity)
      (htext : ReadsAs (untilNul bytes) text.toList) (rest : Shown receiver messages lines) :
      Shown receiver (⟨level, some bytes⟩ :: messages)
        (.message receiver severity ("LibOVR: " ++ text) :: lines)

/-- What the runtimes of all libraries know from one call to the next. -/
structure Runtimes where
  hasCallback : LibraryId → Bool
  results : LibraryId → List Int32

namespace Runtimes

/-- The result of the next start. -/
def result (s : Runtimes) (k : LibraryId) : Int32 := (popCode (s.results k)).1

/-- What they know after a start. -/
def started (s : Runtimes) (k : LibraryId) (parameters : StartParameters) : Runtimes where
  hasCallback := assign s.hasCallback k parameters.hasCallback
  results := assign s.results k (popCode (s.results k)).2

/-- Of the messages of a runtime those that it reports: all if it was given a callback, else
none. -/
def reported (s : Runtimes) (k : LibraryId) (messages : List RuntimeMessage) :
    List RuntimeMessage :=
  if s.hasCallback k then messages else []

end Runtimes

def startLine (receiver : Option String) (flags : UInt32) : Event :=
  .message receiver .info s!"LibOVR initialized (flags {Text.hexadecimal flags.toNat})"

def stopLine (receiver : Option String) : Event := .message receiver .info "LibOVR shut down"

/-- What is logged for one call of a runtime. -/
inductive Says (host : Host) (receiver : Option String) :
    Runtimes → LibraryId → NativeCall → List Event → Runtimes → Prop
  | failure {s : Runtimes} {k : LibraryId} {parameters : StartParameters} {lines : List Event}
      (hresult : s.result k < 0)
      (hlines : Shown receiver
        ((s.started k parameters).reported k (host.library k).runtime.startMessages) lines) :
      Says host receiver s k (.ovrStart parameters) lines (s.started k parameters)
  | success {s : Runtimes} {k : LibraryId} {parameters : StartParameters} {lines : List Event}
      (hresult : 0 ≤ s.result k)
      (hlines : Shown receiver
        ((s.started k parameters).reported k (host.library k).runtime.startMessages) lines) :
      Says host receiver s k (.ovrStart parameters)
        (lines ++ [startLine receiver parameters.flags]) (s.started k parameters)
  | version {s : Runtimes} {k : LibraryId} {lines : List Event}
      (hlines : Shown receiver (s.reported k (host.library k).runtime.versionMessages) lines) :
      Says host receiver s k .ovrVersion lines s
  | shutdown {s : Runtimes} {k : LibraryId} {lines : List Event}
      (hlines : Shown receiver (s.reported k (host.library k).runtime.shutdownMessages) lines) :
      Says host receiver s k .ovrShutdown (lines ++ [stopLine receiver]) s

/-- The event is a call of a headset runtime, or a message about one. -/
def IsAbout : Event → Prop
  | .called _ (.ovrStart _) | .called _ .ovrVersion | .called _ .ovrShutdown => True
  | .message _ _ text => "LibOVR".toList <+: text.toList
  | _ => False

/-- What happens is told of runtimes: all that is logged of them comes right after the calls that it
is said for. -/
inductive Told (receiver : Option String) : Runtimes → List (Host × Event) → Runtimes → Prop
  | nil (s : Runtimes) : Told receiver s [] s
  | other {s s' : Runtimes} {host : Host} {e : Event} {es : List (Host × Event)}
      (h : ¬ IsAbout e) (rest : Told receiver s es s') : Told receiver s ((host, e) :: es) s'
  | call {s s' s'' : Runtimes} {host : Host} {k : LibraryId} {call : NativeCall}
      {lines : List Event} {es : List (Host × Event)}
      (h : Says host receiver s k call lines s') (rest : Told receiver s' es s'') :
      Told receiver s ((host, .called k call) :: lines.map (Prod.mk host) ++ es) s''

theorem severity_levelOf (level : Int32) : Severity level (levelOf level) := by
  unfold levelOf
  split
  · rename_i hdebug
    subst hdebug
    exact .debug
  · rename_i hdebug
    split
    · rename_i herror
      subst herror
      exact .error
    · rename_i herror
      exact .other hdebug herror

section Told

variable {host : Host} {receiver : Option String} {s s' s'' : Runtimes} {k : LibraryId}
  {call : NativeCall} {es es' : List (Host × Event)} {lines : List Event} {e : Event}

theorem Told.append (h : Told receiver s es s') (h' : Told receiver s' es' s'') :
    Told receiver s (es ++ es') s'' := by
  induction h with
  | nil s => exact h'
  | other hother _ ih => exact .other hother (ih h')
  | call hsays _ ih =>
    rw [List.append_assoc]
    exact .call hsays (ih h')

theorem Told.of_others (host : Host) (s : Runtimes) (h : ∀ e ∈ lines, ¬ IsAbout e) :
    Told receiver s (lines.map (Prod.mk host)) s := by
  induction lines with
  | nil => exact .nil s
  | cons e lines ih =>
    exact .other (h e List.mem_cons_self) (ih fun e he => h e (List.mem_cons_of_mem _ he))

theorem Says.told (h : Says host receiver s k call lines s') :
    Told receiver s ((Event.called k call :: lines).map (Prod.mk host)) s' := by
  have hcall := Told.call h (.nil s')
  rwa [List.append_nil] at hcall

theorem Shown.exists_text {messages : List RuntimeMessage} (h : Shown receiver messages lines)
    (he : e ∈ lines) : ∃ severity text, e = .message receiver severity ("LibOVR: " ++ text) := by
  induction h with
  | nil => cases he
  | silent _ ih => exact ih he
  | line _ _ _ ih =>
    rcases List.mem_cons.mp he with rfl | he
    · exact ⟨_, _, rfl⟩
    · exact ih he

theorem Shown.startLine_notMem {messages : List RuntimeMessage} (h : Shown receiver messages lines)
    (flags : UInt32) : startLine receiver flags ∉ lines := by
  intro hmem
  obtain ⟨severity, text, hline⟩ := h.exists_text hmem
  have htext := congrArg String.toList (Event.message.inj hline).2.2
  simp [toString] at htext

theorem Shown.stopLine_notMem {messages : List RuntimeMessage} (h : Shown receiver messages lines) :
    stopLine receiver ∉ lines := by
  intro hmem
  obtain ⟨severity, text, hline⟩ := h.exists_text hmem
  have htext := congrArg String.toList (Event.message.inj hline).2.2
  simp at htext

theorem startLine_ne_stopLine (flags : UInt32) : startLine receiver flags ≠ stopLine receiver := by
  intro hline
  have htext := congrArg String.toList (Event.message.inj hline).2.2
  simp [toString] at htext

/-- That a start came off is said exactly if it did. -/
theorem Says.startLine_iff (h : Says host receiver s k call lines s') :
    (∃ flags, startLine receiver flags ∈ lines) ↔
      ∃ parameters, call = .ovrStart parameters ∧ 0 ≤ s.result k := by
  cases h with
  | failure hresult hlines =>
    constructor
    · rintro ⟨flags, hmem⟩
      exact absurd hmem (hlines.startLine_notMem flags)
    · rintro ⟨-, -, hsuccess⟩
      exact absurd hresult (Int32.not_lt.mpr hsuccess)
  | success hresult hlines =>
    exact iff_of_true ⟨_, List.mem_append_right _ List.mem_cons_self⟩ ⟨_, rfl, hresult⟩
  | version hlines =>
    refine iff_of_false ?_ nofun
    rintro ⟨flags, hmem⟩
    exact hlines.startLine_notMem flags hmem
  | shutdown hlines =>
    refine iff_of_false ?_ nofun
    rintro ⟨flags, hmem⟩
    rcases List.mem_append.mp hmem with hmem | hmem
    · exact hlines.startLine_notMem flags hmem
    · exact startLine_ne_stopLine flags (List.mem_singleton.mp hmem)

/-- That a runtime was shut down is said exactly if it was. -/
theorem Says.stopLine_iff (h : Says host receiver s k call lines s') :
    stopLine receiver ∈ lines ↔ call = .ovrShutdown := by
  cases h with
  | failure _ hlines => exact iff_of_false hlines.stopLine_notMem nofun
  | success _ hlines =>
    refine iff_of_false ?_ nofun
    intro hmem
    rcases List.mem_append.mp hmem with hmem | hmem
    · exact hlines.stopLine_notMem hmem
    · exact startLine_ne_stopLine _ (List.mem_singleton.mp hmem).symm
  | version hlines => exact iff_of_false hlines.stopLine_notMem nofun
  | shutdown hlines => exact iff_of_true (List.mem_append_right _ List.mem_cons_self) rfl

end Told

/-! The runtimes of a world. -/

def runtimesOf (w : World) : Runtimes := ⟨w.hasCallback, w.startResults⟩

/-- What happens is told of the runtimes of a host. -/
def Tells (host : Host) (w w' : World) : Prop :=
  w'.handler = w.handler ∧ ∃ es : List Event, w'.history = es.reverse ++ w.history ∧
    Told w.receiver (runtimesOf w) (es.map (Prod.mk host)) (runtimesOf w')

/-- Nothing that happens is about a runtime. -/
def Mute (w w' : World) : Prop :=
  w'.handler = w.handler ∧ runtimesOf w' = runtimesOf w ∧
    ∃ es : List Event, w'.history = es.reverse ++ w.history ∧ ∀ e ∈ es, ¬ IsAbout e

/-- A runtime is called, and what is said for that is all that happens. -/
def Calls (host : Host) (k : LibraryId) (call : NativeCall) (w w' : World) : Prop :=
  w'.handler = w.handler ∧ ∃ lines : List Event,
    w'.history = (Event.called k call :: lines).reverse ++ w.history ∧
      Says host w.receiver (runtimesOf w) k call lines (runtimesOf w')

instance : IsPreorder World Mute where
  refl w := ⟨rfl, rfl, [], rfl, nofun⟩
  trans := by
    rintro w w' w'' ⟨hhandler, hruntimes, es, hhistory, hes⟩
      ⟨hhandler', hruntimes', es', hhistory', hes'⟩
    refine ⟨hhandler'.trans hhandler, hruntimes'.trans hruntimes, es ++ es',
      by simp [hhistory, hhistory'], fun e he => ?_⟩
    rcases List.mem_append.mp he with he | he
    · exact hes e he
    · exact hes' e he

section Tells

variable {host : Host} {w w' w'' : World} {k : LibraryId} {call : NativeCall}

theorem Mute.tells (h : Mute w w') (host : Host) : Tells host w w' := by
  obtain ⟨hhandler, hruntimes, es, hhistory, hes⟩ := h
  refine ⟨hhandler, es, hhistory, ?_⟩
  rw [hruntimes]
  exact .of_others host _ hes

theorem Calls.tells (h : Calls host k call w w') : Tells host w w' := by
  obtain ⟨hhandler, lines, hhistory, hsays⟩ := h
  exact ⟨hhandler, _, hhistory, hsays.told⟩

/-- The call is there, and what is said for it names it if it came off. -/
theorem Calls.said (h : Calls host k call w w') :
    ∃ es : List Event, w'.history = es.reverse ++ w.history ∧ .called k call ∈ es ∧
      ((∃ flags, startLine w.receiver flags ∈ es) ↔
        ∃ parameters, call = .ovrStart parameters ∧ 0 ≤ (runtimesOf w).result k) ∧
      (stopLine w.receiver ∈ es ↔ call = .ovrShutdown) := by
  obtain ⟨-, lines, hhistory, hsays⟩ := h
  refine ⟨_, hhistory, List.mem_cons_self, ?_, ?_⟩
  · rw [← hsays.startLine_iff]
    simp [startLine]
  · rw [← hsays.stopLine_iff]
    simp [stopLine]

theorem Tells.refl (host : Host) (w : World) : Tells host w w :=
  Mute.tells (Std.Refl.refl w) host

theorem Tells.trans (h : Tells host w w') (h' : Tells host w' w'') : Tells host w w'' := by
  obtain ⟨hhandler, es, hhistory, htold⟩ := h
  obtain ⟨hhandler', es', hhistory', htold'⟩ := h'
  have hreceiver : w'.receiver = w.receiver := congrArg (Option.map Handler.name) hhandler
  refine ⟨hhandler'.trans hhandler, es ++ es', by simp [hhistory, hhistory'], ?_⟩
  rw [List.map_append]
  rw [hreceiver] at htold'
  exact htold.append htold'

end Tells

/-! Calls of the native runtime. -/

section Calls

variable (host : Host) (w : World)

theorem run_log (level : LogLevel) (text : String) : (log level text).run host w =
    ((), { w with history := .message w.receiver level text :: w.history }) := rfl

/-- The line that a message comes to. -/
def line? (receiver : Option String) (m : RuntimeMessage) : Option Event :=
  m.text.map fun bytes =>
    .message receiver (levelOf m.level) s!"LibOVR: {Text.Utf8.nativeText bytes}"

theorem shown_filterMap (receiver : Option String) (messages : List RuntimeMessage) :
    Shown receiver messages (messages.filterMap (line? receiver)) := by
  induction messages with
  | nil => exact .nil
  | cons m messages ih =>
    obtain ⟨level, text⟩ := m
    cases text with
    | none => exact .silent ih
    | some bytes => exact .line (severity_levelOf level) (Text.Utf8.readsAs_decodeLossy _) ih

theorem run_forM_forward (messages : List RuntimeMessage) :
    (messages.forM forward).run host w = ((), { w with
      history := (messages.filterMap (line? w.receiver)).reverse ++ w.history }) := by
  induction messages generalizing w with
  | nil => rfl
  | cons m messages ih =>
    obtain ⟨level, text⟩ := m
    cases text with
    | none => exact ih w
    | some bytes =>
      have hlines : (⟨level, some bytes⟩ :: messages).filterMap (line? w.receiver) =
          .message w.receiver (levelOf level) s!"LibOVR: {Text.Utf8.nativeText bytes}" ::
            messages.filterMap (line? w.receiver) := rfl
      rw [hlines, List.reverse_cons, List.append_assoc]
      exact ih _

/-- Reporting adds the lines of the messages to the history, and changes nothing else. -/
theorem run_report (k : LibraryId) (messages : List RuntimeMessage) :
    ∃ lines, Shown w.receiver ((runtimesOf w).reported k messages) lines ∧
      (Native.report forward k messages).run host w =
        ((), { w with history := lines.reverse ++ w.history }) := by
  refine ⟨_, shown_filterMap _ _, ?_⟩
  rw [Native.report, Action.run_bind, Action.run_get, Action.run_ite, Runtimes.reported, runtimesOf]
  split
  · exact run_forM_forward host w messages
  · rfl

/-- A start reports its messages and takes its result; what came of it is for the caller to say. -/
theorem run_ovrStart (e : Entry .ovrStart) (parameters : StartParameters) :
    ∃ lines w', (Native.ovrStart forward e parameters).run host w =
        ((runtimesOf w).result e.library, w') ∧
      w'.handler = w.handler ∧ runtimesOf w' = (runtimesOf w).started e.library parameters ∧
      w'.history = (Event.called e.library (.ovrStart parameters) :: lines).reverse ++ w.history ∧
      Shown w.receiver (((runtimesOf w).started e.library parameters).reported e.library
        (host.library e.library).runtime.startMessages) lines := by
  -- The runtime has its callback before it reports anything.
  let called : World := { w with
    history := .called e.library (.ovrStart parameters) :: w.history
    hasCallback := assign w.hasCallback e.library parameters.hasCallback }
  obtain ⟨lines, hlines, hrun⟩ :=
    run_report host called e.library (host.library e.library).runtime.startMessages
  let answered (w : World) : Int32 × World := ((runtimesOf w).result e.library, { w with
    startResults := assign w.startResults e.library (popCode (w.startResults e.library)).2 })
  refine ⟨lines, (answered { called with history := lines.reverse ++ called.history }).2, ?_, rfl,
    rfl, ?_, hlines⟩
  · have hstart : (Native.ovrStart forward e parameters).run host w =
        answered ((Native.report forward e.library
          (host.library e.library).runtime.startMessages).run host called).2 := rfl
    exact hstart.trans (congrArg (fun reported => answered reported.2) hrun)
  · simp [answered, called]

/-- A call that does nothing but report. -/
theorem run_report_called (k : LibraryId) (call : NativeCall) (messages : List RuntimeMessage) :
    ∃ lines, Shown w.receiver ((runtimesOf w).reported k messages) lines ∧
      ((Native.report forward k messages).run host
          { w with history := .called k call :: w.history }).2 =
        { w with history := (Event.called k call :: lines).reverse ++ w.history } := by
  obtain ⟨lines, hlines, hrun⟩ :=
    run_report host { w with history := .called k call :: w.history } k messages
  refine ⟨lines, hlines, ?_⟩
  rw [hrun, List.reverse_cons, List.append_assoc]
  rfl

namespace HeadsetRuntime

variable (r : HeadsetRuntime)

/-- The line about a shutdown comes after all that was reported. -/
theorem shutdown_says (h : r.isStarted = true) :
    Calls host r.shutdownEntry.library .ovrShutdown w (r.shutdown.run host w).2 := by
  obtain ⟨lines, hlines, hrun⟩ := run_report_called host w r.shutdownEntry.library .ovrShutdown
    (host.library r.shutdownEntry.library).runtime.shutdownMessages
  have hshutdown : (r.shutdown.run host w).2 =
      ((log .info "LibOVR shut down").run host ((Native.report forward r.shutdownEntry.library
        (host.library r.shutdownEntry.library).runtime.shutdownMessages).run host { w with
          history := .called r.shutdownEntry.library .ovrShutdown :: w.history }).2).2 := by
    rw [shutdown, Action.run_ite, if_pos h]
    rfl
  rw [hshutdown, hrun, run_log]
  refine ⟨rfl, lines ++ [stopLine w.receiver], ?_, .shutdown hlines⟩
  simp [stopLine, World.receiver]

theorem shutdown_of_stopped (h : r.isStarted = false) : r.shutdown.run host w = (r, w) := by
  rw [shutdown, Action.run_ite, if_neg (by simp [h])]
  rfl

/-- The line about a start comes after all that was reported, if the start came off. -/
theorem start_says (flags : StartFlags) (h : r.isStarted = false) :
    ∃ parameters, Calls host r.startEntry.library (.ovrStart parameters) w
      ((r.start flags).run host w).2 := by
  let parameters : StartParameters :=
    { flags := flags.bits, requestedMinorVersion := minorVersion, hasCallback := true }
  obtain ⟨lines, w', hrun, hhandler, hruntimes, hhistory, hlines⟩ :=
    run_ovrStart host w r.startEntry parameters
  refine ⟨parameters, ?_⟩
  rw [start, Attempt.run_ite, if_neg (by simp [h]), Attempt.run_bind, Attempt.run_liftM]
  dsimp only
  rw [hrun, Attempt.run_ite]
  by_cases hnegative : (runtimesOf w).result r.startEntry.library < 0
  · rw [if_pos hnegative]
    refine ⟨hhandler, lines, hhistory, ?_⟩
    change Says host w.receiver (runtimesOf w) _ _ lines (runtimesOf w')
    rw [hruntimes]
    exact .failure hnegative hlines
  · rw [if_neg hnegative]
    have hreceiver : w'.receiver = w.receiver := congrArg (Option.map Handler.name) hhandler
    let own : Event := startLine w.receiver flags.bits
    have hafter : (((do
        log .info s!"LibOVR initialized (flags {Text.hexadecimal flags.bits.toNat})"
        return { r with isStarted := true } : Attempt World HeadsetRuntime).run host w').2) =
        { w' with history := own :: w'.history } := by
      rw [Attempt.run_bind, Attempt.run_liftM, run_log, hreceiver]
      rfl
    rw [hafter]
    refine ⟨hhandler, lines ++ [own], by simp [hhistory], ?_⟩
    change Says host w.receiver (runtimesOf w) _ _ _ (runtimesOf w')
    rw [hruntimes]
    exact .success (Int32.not_lt.mp hnegative) hlines

end HeadsetRuntime

end Calls

end NativeBinding.LibOVR
