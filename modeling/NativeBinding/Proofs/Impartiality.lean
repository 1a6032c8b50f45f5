import NativeBinding.Binding.Provider

/-!
Computations that do not care who listens. Run with nobody listening and nothing behind it, such a
computation answers the same and leaves the same state; its messages then only have to be
readdressed to the handler that is installed.
-/
namespace NativeBinding

/-- The event with a message readdressed to another receiver. -/
def Event.sentTo (receiver : Option String) : Event → Event
  | .message _ level text => .message receiver level text
  | e => e

theorem Event.sentTo_sentTo (receiver receiver' : Option String) (e : Event) :
    (e.sentTo receiver').sentTo receiver = e.sentTo receiver := by
  cases e <;> rfl

theorem Event.message?_sentTo (receiver : Option String) (e : Event) :
    (e.sentTo receiver).message? = e.message? := by
  cases e <;> rfl

namespace World

/-- The name of the installed handler. -/
def receiver (w : World) : Option String := w.handler.map Handler.name

/-- The world with nobody listening and nothing behind it. -/
def unheard (w : World) : World := { w with handler := none, history := [] }

/-- What has become of the world, if `later` has become of it with nobody listening: its handler
is still there and was sent all messages. -/
def overheard (w later : World) : World :=
  { later with
    handler := w.handler
    history := later.history.map (Event.sentTo w.receiver) ++ w.history }

theorem overheard_overheard (w later last : World) :
    (w.overheard later).overheard last = w.overheard (later.overheard last) := by
  have hreceiver : (w.overheard later).receiver = w.receiver := rfl
  simp only [overheard] at hreceiver ⊢
  simp only [hreceiver, List.map_append, List.map_map, List.append_assoc]
  congr 2
  refine List.map_congr_left fun e _ => ?_
  exact (e.sentTo_sentTo _ _).symm

end World

/-- A state of which the world is a part. -/
class HasWorld (σ : Type) where
  world : σ → World
  putWorld : World → σ → σ
  world_put (w : World) (s : σ) : world (putWorld w s) = w
  put_world (s : σ) : putWorld (world s) s = s
  put_put (w w' : World) (s : σ) : putWorld w (putWorld w' s) = putWorld w s

instance : HasWorld World where
  world := id
  putWorld w _ := w
  world_put _ _ := rfl
  put_world _ := rfl
  put_put _ _ _ := rfl

/-- The state with nobody listening and nothing behind it. -/
def unheard {σ : Type} [HasWorld σ] (s : σ) : σ :=
  HasWorld.putWorld (HasWorld.world s).unheard s

/-- What has become of the state, if `later` has become of it with nobody listening. -/
def overheard {σ : Type} [HasWorld σ] (s later : σ) : σ :=
  HasWorld.putWorld ((HasWorld.world s).overheard (HasWorld.world later)) later

/-- The computation does not care who listens. -/
def Action.Impartial {σ α : Type} [HasWorld σ] (x : Action σ α) : Prop :=
  ∀ host s, x.run host s =
    ((x.run host (unheard s)).1, overheard s (x.run host (unheard s)).2)

/-- The same of an attempt. -/
def Attempt.Impartial {σ α : Type} [HasWorld σ] (x : Attempt σ α) : Prop := x.outcome.Impartial

section Impartial

variable {σ α β : Type} [HasWorld σ]

theorem unheard_overheard (s later : σ) : unheard (overheard s later) = unheard later := by
  simp only [unheard, overheard, HasWorld.world_put, HasWorld.put_put]
  rfl

theorem overheard_overheard (s later last : σ) :
    overheard (overheard s later) last = overheard s (overheard later last) := by
  simp only [overheard, HasWorld.world_put, HasWorld.put_put, World.overheard_overheard]

theorem overheard_unheard (s : σ) : overheard s (unheard s) = s := by
  have hworld : (HasWorld.world s).overheard (HasWorld.world s).unheard = HasWorld.world s := rfl
  simp only [overheard, unheard, HasWorld.world_put, HasWorld.put_put, hworld, HasWorld.put_world]

namespace Action.Impartial

theorem pure (a : α) : Impartial (Pure.pure a : Action σ α) := by
  intro host s
  rw [run_pure, run_pure, overheard_unheard]

theorem bind {x : Action σ α} {f : α → Action σ β} (hx : x.Impartial)
    (hf : ∀ a, (f a).Impartial) : (x >>= f).Impartial := by
  intro host s
  rw [run_bind, run_bind, hx host s]
  generalize x.run host (unheard s) = r
  rw [hf r.1 host (overheard s r.2), hf r.1 host r.2, unheard_overheard, overheard_overheard]

theorem ite {c : Prop} [Decidable c] {x y : Action σ α} (hx : x.Impartial) (hy : y.Impartial) :
    (if c then x else y).Impartial := by
  split
  · exact hx
  · exact hy

/-- Reading the state is impartial if nothing is made of the handler or of what lies behind. -/
theorem get_bind {f : σ → Action σ β} (hf : ∀ s, f (unheard s) = f s)
    (h : ∀ s, (f s).Impartial) : (get >>= f).Impartial := by
  intro host s
  rw [run_bind, run_bind, run_get, run_get, hf s]
  exact h s host s

theorem read_bind {f : Host → Action σ β} (h : ∀ host, (f host).Impartial) :
    (read >>= f).Impartial :=
  fun host s => h host host s

theorem theLibrary (k : LibraryId) :
    (NativeBinding.theLibrary k : Action σ NativeLibrary).Impartial :=
  read_bind fun host => pure (host.library k)

theorem forM {xs : List α} {f : α → Action σ Unit} (hf : ∀ a, (f a).Impartial) :
    (xs.forM f).Impartial := by
  induction xs with
  | nil => exact pure ()
  | cons a xs ih => exact (hf a).bind fun _ => ih

end Action.Impartial

namespace Attempt.Impartial

theorem pure (a : α) : Impartial (Pure.pure a : Attempt σ α) := Action.Impartial.pure _

theorem throw (failure : Failure) : Impartial (MonadExcept.throw failure : Attempt σ α) :=
  Action.Impartial.pure _

theorem lift {x : Action σ α} (hx : x.Impartial) : (liftM x : Attempt σ α).Impartial :=
  Action.Impartial.bind hx fun _ => .pure _

theorem bind {x : Attempt σ α} {f : α → Attempt σ β} (hx : x.Impartial)
    (hf : ∀ a, (f a).Impartial) : (x >>= f).Impartial := by
  refine Action.Impartial.bind hx fun outcome => ?_
  cases outcome with
  | ok a => exact hf a
  | error failure => exact .pure _

theorem ite {c : Prop} [Decidable c] {x y : Attempt σ α} (hx : x.Impartial) (hy : y.Impartial) :
    (if c then x else y).Impartial := by
  split
  · exact hx
  · exact hy

theorem tryCatch {x : Attempt σ α} {handle : Failure → Attempt σ α} (hx : x.Impartial)
    (hhandle : ∀ failure, (handle failure).Impartial) :
    (MonadExcept.tryCatch x handle).Impartial := by
  refine Action.Impartial.bind hx fun outcome => ?_
  cases outcome with
  | ok a => exact .pure _
  | error failure => exact hhandle failure

end Attempt.Impartial

end Impartial

/-! Basic steps, and native calls. -/

theorem emit_impartial {e : Event} (h : e.message? = none) : (emit e).Impartial := by
  intro host w
  have hsent : e.sentTo w.receiver = e := by
    cases e <;> first | rfl | cases h
  change ((), _) = ((), { w with history := e.sentTo w.receiver :: w.history })
  rw [hsent]

/-- How the receiver takes a message is not felt by the one who logs it. -/
theorem log_impartial (level : LogLevel) (text : String) : (log level text).Impartial :=
  fun _ _ => rfl

theorem newNumber_impartial : newNumber.Impartial := fun _ _ => rfl

namespace Native

theorem call_impartial (k : LibraryId) (call : NativeCall) : (emit (.called k call)).Impartial :=
  emit_impartial rfl

/-- A call that is answered from what the library is. -/
theorem answer_impartial {α : Type} (k : LibraryId) (call : NativeCall) (f : NativeLibrary → α) :
    Action.Impartial (do
      emit (.called k call)
      let library ← theLibrary k
      return f library) :=
  (call_impartial k call).bind fun _ => (Action.Impartial.theLibrary k).bind fun _ => .pure _

theorem alError_impartial (e : Entry .alError) : (alError e).Impartial :=
  (call_impartial _ _).bind fun _ _ _ => rfl

theorem alcError_impartial (e : Entry .alcError) (d : Device) : (alcError e d).Impartial :=
  (call_impartial _ _).bind fun _ => (Action.Impartial.theLibrary _).bind fun _ _ _ => rfl

theorem report_impartial {callback : RuntimeMessage → Action World Unit}
    (h : ∀ m, (callback m).Impartial) (k : LibraryId) (messages : List RuntimeMessage) :
    (report callback k messages).Impartial :=
  .get_bind (fun _ => rfl) fun _ => (Action.Impartial.forM h).ite (.pure _)

end Native

/-! Providers. -/

theorem openFile_impartial (name : String) : (openFile name).Impartial := by
  unfold openFile
  cases LibraryName.native? name with
  | error fault => exact .pure _
  | ok file =>
    refine .read_bind fun host => ?_
    cases host.openFile file with
    | fails text => exact (emit_impartial rfl).bind fun _ => .pure _
    | opens library _ =>
      exact newNumber_impartial.bind fun _ => (emit_impartial rfl).bind fun _ => .pure _

theorem OpenLibrary.close_impartial (l : OpenLibrary) : l.close.Impartial := by
  refine (emit_impartial rfl).bind fun _ => .read_bind fun host => ?_
  cases (host.closing l.file).fault? with
  | none => exact .pure _
  | some fault => exact .pure _

namespace SharedLibrary

theorem openCandidate_impartial (name candidate : String) :
    (openCandidate name candidate).Impartial := by
  refine (openFile_impartial candidate).bind fun outcome => ?_
  cases outcome with
  | ok opened => exact (log_impartial _ _).bind fun _ => .pure _
  | error fault => exact (log_impartial _ _).bind fun _ => .pure _

theorem openFirst_impartial (name candidate : String) (candidates : List String) :
    (openFirst name candidate candidates).Impartial := by
  induction candidates generalizing candidate with
  | nil =>
    refine (Attempt.Impartial.lift (openCandidate_impartial _ _)).bind fun outcome => ?_
    cases outcome with
    | ok library => exact .pure _
    | error fault => exact .throw _
  | cons next candidates ih =>
    refine (Attempt.Impartial.lift (openCandidate_impartial _ _)).bind fun outcome => ?_
    cases outcome with
    | ok library => exact .pure _
    | error fault => exact ih next

theorem load_impartial (name : String) (fallbacks : List String) :
    (load name fallbacks).Impartial :=
  (Attempt.Impartial.throw _).ite (openFirst_impartial _ _ _)

theorem address_impartial (l : SharedLibrary) (name : String) : (l.address name).Impartial := by
  unfold address
  cases l.opened with
  | none => exact .pure _
  | some opened =>
    cases LibraryName.native? name with
    | error fault => exact .pure _
    | ok symbol =>
      exact (emit_impartial rfl).bind fun _ =>
        (Action.Impartial.theLibrary _).bind fun _ => .pure _

theorem release_impartial (l : SharedLibrary) : l.release.Impartial := by
  unfold release
  cases l.opened with
  | none => exact .pure _
  | some opened =>
    refine opened.close_impartial.bind fun outcome => ?_
    cases outcome with
    | ok _ => exact .pure _
    | error fault => exact (log_impartial _ _).bind fun _ => .pure _

end SharedLibrary

namespace Resolver

theorem askPlatform_impartial (r : Resolver) (p : PlatformId) (name : String) :
    (r.askPlatform p name).Impartial := by
  unfold askPlatform
  cases r.perPlatform with
  | none => exact .pure _
  | some e => exact Native.answer_impartial _ _ _

theorem ask_impartial (r : Resolver) (name : String) : (r.ask name).Impartial := by
  unfold ask
  cases r.strategy with
  | perPlatform p => exact r.askPlatform_impartial p name
  | generic =>
    unfold askGeneric
    cases r.generic with
    | none => exact .pure _
    | some e => exact Native.answer_impartial _ _ _

end Resolver

namespace Provider

theorem supply_impartial (library : LibraryId) (isFull : Bool) :
    (supply library isFull).Impartial :=
  newNumber_impartial.bind fun _ => .pure _

theorem address_impartial (provider : Provider) (name : String) :
    (provider.address name).Impartial := by
  induction provider with
  | supplied p =>
    exact (emit_impartial rfl).bind fun _ => (Action.Impartial.theLibrary _).bind fun _ => .pure _
  | shared l => exact l.address_impartial name
  | resolver r inner ih =>
    exact ((r.ask_impartial name).bind fun _ => ih.ite (.pure _)).ite (.pure _)

theorem release_impartial (provider : Provider) : provider.release.Impartial := by
  induction provider with
  | supplied p =>
    refine Action.Impartial.ite ?_ ?_
    · exact (emit_impartial rfl).bind fun _ => .pure _
    · exact .pure _
  | shared l => exact l.release_impartial.bind fun _ => .pure _
  | resolver r inner ih => exact (Action.Impartial.pure _).ite (ih.bind fun _ => .pure _)

variable (provider : Provider)

theorem addressFor_impartial (p : PlatformId) (name : String) :
    (provider.addressFor p name).Impartial := by
  cases provider with
  | supplied s =>
    exact ((emit_impartial rfl).bind fun _ =>
      (Action.Impartial.theLibrary _).bind fun _ => .pure _).ite (.pure _)
  | shared l => exact .pure _
  | resolver r inner => exact (r.askPlatform_impartial p name).ite (.pure _)

theorem releaseFully_impartial : provider.releaseFully.Impartial :=
  provider.release_impartial.bind fun _ => .pure _

theorem drop_impartial : provider.drop.Impartial := by
  cases provider with
  | supplied p => exact .pure _
  | shared l => exact releaseFully_impartial _
  | resolver r inner => exact releaseFully_impartial _

theorem require_impartial (name : String) : (provider.require name).Impartial :=
  (Attempt.Impartial.lift (provider.address_impartial name)).bind fun _ =>
    (Attempt.Impartial.throw _).ite (.pure _)

theorem entryOf_impartial (f : NativeFunction) : (provider.entryOf f).Impartial :=
  (provider.address_impartial f.name).bind fun _ => .pure _

theorem requireEntry_impartial (f : NativeFunction) : (provider.requireEntry f).Impartial := by
  refine (Attempt.Impartial.lift (provider.entryOf_impartial f)).bind fun entry => ?_
  cases entry with
  | none => exact .throw _
  | some e => exact .pure _

theorem releasedOnFailure_impartial {α : Type} {x : Attempt World α} (hx : x.Impartial) :
    (provider.releasedOnFailure x).Impartial :=
  hx.tryCatch fun _ =>
    (Attempt.Impartial.lift provider.releaseFully_impartial).bind fun _ => .throw _

end Provider

end NativeBinding
