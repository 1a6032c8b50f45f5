import NativeBinding.OpenAL.ErrorFlag
import NativeBinding.Proofs.Answers

/-!
The errors of OpenAL as streams. A library keeps one queue of errors for its contexts and others for
its devices; every poll takes the oldest error of its own queue, whatever is asked in between and
through whichever of the bindings that share the library.
-/
namespace NativeBinding.OpenAL

/-- What can be asked about errors. -/
inductive Query where
  | check
  | checkDevice (d : Device)
  | errorText (code : Int32)
  | deviceErrorText (d : Device) (code : Int32)

/-- What is answered: how a check ended, or a description. -/
inductive Reply where
  | checked (outcome : Except Failure Unit)
  | described (text : String)

/-- A query that is made through one of any number of bindings. -/
structure Request where
  audio : AudioLibrary
  query : Query

/-- A queue of pending errors: that of a library for its contexts, or one of those for its
devices. -/
inductive Queue where
  | contexts (k : LibraryId)
  | devices (k : LibraryId) (own : Option Device)
  deriving DecidableEq

/-- The errors in a queue, oldest first. -/
def Queue.pending (w : World) : Queue → List Int32
  | contexts k => w.alErrors k
  | devices k own => w.alcErrors k own

variable (host : Host) (w : World)

theorem popCode_eq (codes : List Int32) :
    Native.popCode codes = (codes.headD noError, codes.tail) := by
  cases codes <;> rfl

/-- The poll of a library's contexts takes the oldest error out of their queue. -/
theorem pending_alError (e : Entry .alError) (q : Queue) :
    q.pending ((Native.alError e).run host w).2 =
      if q = .contexts e.library then (q.pending w).tail else q.pending w := by
  change q.pending { w with
    alErrors := assign w.alErrors e.library (Native.popCode (w.alErrors e.library)).2
    history := _ :: w.history } = _
  rw [popCode_eq]
  cases q with
  | contexts k => by_cases hk : k = e.library <;> simp [Queue.pending, assign, hk]
  | devices k own => simp [Queue.pending]

/-- The poll of a device takes the oldest error out of the queue that the device uses. -/
theorem pending_alcError (e : Entry .alcError) (d : Device) (q : Queue) :
    q.pending ((Native.alcError e d).run host w).2 =
      if q = .devices e.library ((host.library e.library).queueOf d) then (q.pending w).tail
      else q.pending w := by
  change q.pending { w with
    alcErrors := assign w.alcErrors e.library (assign (w.alcErrors e.library)
      ((host.library e.library).queueOf d)
        (Native.popCode (w.alcErrors e.library ((host.library e.library).queueOf d))).2)
    history := _ :: w.history } = _
  rw [popCode_eq]
  cases q with
  | contexts k => simp [Queue.pending]
  | devices k own =>
    by_cases hk : k = e.library
    · by_cases hown : own = (host.library e.library).queueOf d <;>
        simp [Queue.pending, assign, hk, hown]
    · simp [Queue.pending, assign, hk]

theorem alError_answer (e : Entry .alError) :
    ((Native.alError e).run host w).1 = (w.alErrors e.library).headD noError := by
  change (Native.popCode (w.alErrors e.library)).1 = _
  rw [popCode_eq]

theorem alcError_answer (e : Entry .alcError) (d : Device) :
    ((Native.alcError e d).run host w).1 =
      (w.alcErrors e.library ((host.library e.library).queueOf d)).headD noError := by
  change (Native.popCode (w.alcErrors e.library ((host.library e.library).queueOf d))).1 = _
  rw [popCode_eq]

/-- The driver's text, or a fixed one if it has none. -/
def wording (text : Option (List UInt8)) : String :=
  text.elim "Unknown OpenAL error" Text.Utf8.nativeText

theorem describe_eq_wording (text : Option (List UInt8)) : describe text = wording text := by
  cases text <;> rfl

/-- What the check of a code comes to if this is the driver's text for the code. -/
def verdict (failure : Int32 → String → Failure) (code : Int32) (text : Option (List UInt8)) :
    Except Failure Unit :=
  if code = noError then .ok () else .error (failure code (wording text))

/-- Polls a flag, and fails with the text of the code that it finds. -/
def translated (poll : Action World Int32) (text : Int32 → Action World String)
    (failure : Int32 → String → Failure) : Attempt World Unit := do
  let code ← poll
  if code = noError then return () else throw (failure code (← text code))

section Translated

variable {poll : Action World Int32} {text : Int32 → Action World String}
  {failure : Int32 → String → Failure} {code : Int32}

theorem translated_answer {reported : Option (List UInt8)} (hpoll : (poll.run host w).1 = code)
    (htext : ∀ w', ((text code).run host w').1 = wording reported) :
    ((translated poll text failure).run host w).1 = verdict failure code reported := by
  simp only [translated, Attempt.run_bind_fst, Attempt.run_liftM, hpoll, Attempt.run_ite, verdict]
  split
  · rfl
  · rw [Attempt.run_bind_fst, Attempt.run_liftM, htext]
    rfl

/-- Describing the error that a poll found takes no further one. -/
theorem pending_translated {q : Queue}
    (htext : ∀ code w', q.pending ((text code).run host w').2 = q.pending w') :
    q.pending ((translated poll text failure).run host w).2 = q.pending (poll.run host w).2 := by
  rw [translated, Attempt.run_bind, Attempt.run_liftM]
  simp only [Attempt.run_ite]
  split
  · rfl
  · exact htext _ _

end Translated

namespace AudioLibrary

variable (a : AudioLibrary) (d : Device) (code : Int32) (q : Queue)

theorem check_eq : a.check = translated (Native.alError a.error) a.errorText .openAl := rfl

theorem checkDevice_eq :
    a.checkDevice d =
      translated (Native.alcError a.deviceError d) (a.deviceErrorText d) .openAlc := rfl

theorem errorText_answer :
    ((a.errorText code).run host w).1 = wording ((host.library a.text.library).alText code) :=
  describe_eq_wording _

theorem deviceErrorText_answer :
    ((a.deviceErrorText d code).run host w).1 =
      wording ((host.library a.deviceText.library).alcText d code) :=
  describe_eq_wording _

theorem pending_errorText : q.pending ((a.errorText code).run host w).2 = q.pending w := by
  cases q <;> rfl

theorem pending_deviceErrorText :
    q.pending ((a.deviceErrorText d code).run host w).2 = q.pending w := by
  cases q <;> rfl

theorem check_answer :
    (a.check.run host w).1 =
      let code := (w.alErrors a.error.library).headD noError
      verdict .openAl code ((host.library a.text.library).alText code) := by
  rw [check_eq]
  exact translated_answer host w (alError_answer host w a.error) fun w' =>
    a.errorText_answer host w' _

theorem checkDevice_answer :
    ((a.checkDevice d).run host w).1 =
      let code := (w.alcErrors a.deviceError.library
        ((host.library a.deviceError.library).queueOf d)).headD noError
      verdict .openAlc code ((host.library a.deviceText.library).alcText d code) := by
  rw [checkDevice_eq]
  exact translated_answer host w (alcError_answer host w a.deviceError d) fun w' =>
    a.deviceErrorText_answer host w' d _

theorem pending_check :
    q.pending (a.check.run host w).2 =
      if q = .contexts a.error.library then (q.pending w).tail else q.pending w := by
  rw [check_eq, pending_translated host w fun code w' => a.pending_errorText host w' code q]
  exact pending_alError host w a.error q

theorem pending_checkDevice :
    q.pending ((a.checkDevice d).run host w).2 =
      if q = .devices a.deviceError.library ((host.library a.deviceError.library).queueOf d) then
        (q.pending w).tail
      else q.pending w := by
  rw [checkDevice_eq,
    pending_translated host w fun code w' => a.pending_deviceErrorText host w' d code q]
  exact pending_alcError host w a.deviceError d q

end AudioLibrary

namespace Request

/-- Makes the query. -/
def perform (r : Request) : Action World Reply :=
  match r.query with
  | .check => .checked <$> r.audio.check.outcome
  | .checkDevice d => .checked <$> (r.audio.checkDevice d).outcome
  | .errorText code => .described <$> r.audio.errorText code
  | .deviceErrorText d code => .described <$> r.audio.deviceErrorText d code

/-- Makes requests one after another. -/
def performAll : List Request → Action World (List Reply)
  | [] => return []
  | r :: requests => do
    let reply ← r.perform
    return reply :: (← performAll requests)

/-- The queue that a request polls, if it polls one. -/
def polls? (r : Request) : Option Queue :=
  match r.query with
  | .check => some (.contexts r.audio.error.library)
  | .checkDevice d =>
    let k := r.audio.deviceError.library
    some (.devices k ((host.library k).queueOf d))
  | .errorText _ | .deviceErrorText .. => none

/-- How many of the requests poll the queue. -/
def pollsOf (requests : List Request) (q : Queue) : Nat :=
  requests.countP fun r => r.polls? host = some q

/-- A request takes one error, and only from the queue that it polls. -/
theorem pending_perform (r : Request) (q : Queue) :
    q.pending (r.perform.run host w).2 =
      if r.polls? host = some q then (q.pending w).tail else q.pending w := by
  obtain ⟨a, query⟩ := r
  cases query with
  | check =>
    simp only [polls?, Option.some.injEq, @eq_comm Queue _ q]
    exact a.pending_check host w q
  | checkDevice d =>
    simp only [polls?, Option.some.injEq, @eq_comm Queue _ q]
    exact a.pending_checkDevice host w d q
  | errorText code => exact a.pending_errorText host w code q
  | deviceErrorText d code => exact a.pending_deviceErrorText host w d code q

/-- After a run of requests a queue lacks as many errors as polls were made of it. -/
theorem pending_performAll (requests : List Request) (q : Queue) :
    q.pending ((performAll requests).run host w).2 =
      (q.pending w).drop (pollsOf host requests q) := by
  induction requests generalizing w with
  | nil => rfl
  | cons r requests ih =>
    have hrun : ((performAll (r :: requests)).run host w).2 =
        ((performAll requests).run host (r.perform.run host w).2).2 := rfl
    rw [hrun, ih, pending_perform, pollsOf, pollsOf, List.countP_cons]
    by_cases hpolls : r.polls? host = some q
    · simp [hpolls]
    · simp [hpolls]

/-- The reply to a request is made in the world that the requests before it leave. -/
theorem getElem?_performAll (requests : List Request) (i : Nat) :
    ((performAll requests).run host w).1[i]? =
      requests[i]?.map fun r =>
        (r.perform.run host ((performAll (requests.take i)).run host w).2).1 := by
  induction requests generalizing w i with
  | nil => rfl
  | cons r requests ih =>
    cases i with
    | zero => rfl
    | succ i => exact ih _ i

/-- The oldest error that a queue still has after a run of requests. -/
theorem headD_performAll (requests : List Request) (q : Queue) :
    (q.pending ((performAll requests).run host w).2).headD noError =
      (q.pending w).getD (pollsOf host requests q) noError := by
  rw [pending_performAll, List.headD_eq_head?_getD, List.head?_drop, List.getD_eq_getElem?_getD]

/-- What a run of requests is answered, by the errors that are pending before it. -/
structure AnsweredInOrder (requests : List Request) : Prop where
  /-- A check answers the error whose turn it is among the checks of its library, with the
  driver's description of this error, whatever else is asked before. -/
  check : ∀ i a, requests[i]? = some ⟨a, .check⟩ →
    let turn := pollsOf host (requests.take i) (.contexts a.error.library)
    let code := (w.alErrors a.error.library).getD turn noError
    ((performAll requests).run host w).1[i]? =
      some (.checked (verdict .openAl code ((host.library a.text.library).alText code)))
  /-- The same of the check of a device among the checks of devices with this queue, and it is
  described for this device. -/
  checkDevice : ∀ i a d, requests[i]? = some ⟨a, .checkDevice d⟩ →
    let k := a.deviceError.library
    let own := (host.library k).queueOf d
    let turn := pollsOf host (requests.take i) (.devices k own)
    let code := (w.alcErrors k own).getD turn noError
    ((performAll requests).run host w).1[i]? =
      some (.checked (verdict .openAlc code
        ((host.library a.deviceText.library).alcText d code)))
  /-- A description is the driver's own, and takes no error out of any queue. -/
  errorText : ∀ i a code, requests[i]? = some ⟨a, .errorText code⟩ →
    ((performAll requests).run host w).1[i]? =
        some (.described (wording ((host.library a.text.library).alText code))) ∧
      ∀ q : Queue, q.pending ((performAll (requests.take (i + 1))).run host w).2 =
        q.pending ((performAll (requests.take i)).run host w).2
  deviceErrorText : ∀ i a d code, requests[i]? = some ⟨a, .deviceErrorText d code⟩ →
    ((performAll requests).run host w).1[i]? =
        some (.described (wording ((host.library a.deviceText.library).alcText d code))) ∧
      ∀ q : Queue, q.pending ((performAll (requests.take (i + 1))).run host w).2 =
        q.pending ((performAll (requests.take i)).run host w).2
  /-- What no poll took is still pending. -/
  kept : ∀ q : Queue, q.pending ((performAll requests).run host w).2 =
    (q.pending w).drop (pollsOf host requests q)

/-- A request that polls no queue leaves all of them as they are. -/
theorem pending_take_succ {requests : List Request} {i : Nat} {r : Request}
    (hr : requests[i]? = some r) (hpolls : r.polls? host = none) (q : Queue) :
    q.pending ((performAll (requests.take (i + 1))).run host w).2 =
      q.pending ((performAll (requests.take i)).run host w).2 := by
  have hcount : pollsOf host (requests.take (i + 1)) q = pollsOf host (requests.take i) q := by
    simp [pollsOf, List.take_add_one, hr, hpolls]
  rw [pending_performAll, pending_performAll, hcount]

/-- However requests through any number of bindings follow each other, each poll answers the next
error of its own queue, and no other request takes one. -/
theorem performAll_inOrder (requests : List Request) : AnsweredInOrder host w requests := by
  have hreply := getElem?_performAll host w requests
  constructor
  case check =>
    intro i a hr turn code
    have hcode := headD_performAll host w (requests.take i) (.contexts a.error.library)
    have hanswer := a.check_answer host ((performAll (requests.take i)).run host w).2
    rw [hreply, hr]
    simp only [Queue.pending] at hcode
    rw [hcode] at hanswer
    exact congrArg (fun outcome => some (Reply.checked outcome)) hanswer
  case checkDevice =>
    intro i a d hr k own turn code
    have hcode := headD_performAll host w (requests.take i) (.devices k own)
    have hanswer := a.checkDevice_answer host ((performAll (requests.take i)).run host w).2 d
    rw [hreply, hr]
    simp only [Queue.pending] at hcode
    rw [hcode] at hanswer
    exact congrArg (fun outcome => some (Reply.checked outcome)) hanswer
  case errorText =>
    intro i a code hr
    refine ⟨?_, pending_take_succ host w hr rfl⟩
    rw [hreply, hr]
    exact congrArg (fun text => some (Reply.described text)) (a.errorText_answer host _ code)
  case deviceErrorText =>
    intro i a d code hr
    refine ⟨?_, pending_take_succ host w hr rfl⟩
    rw [hreply, hr]
    exact congrArg (fun text => some (Reply.described text))
      (a.deviceErrorText_answer host _ d code)
  case kept => exact pending_performAll host w requests

end Request

end NativeBinding.OpenAL
