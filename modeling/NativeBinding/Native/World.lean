import NativeBinding.Native.Action
import NativeBinding.Native.Event

/-! The part of a run's state that lies outside the bindings, and the basic steps that change it. -/
namespace NativeBinding

/-- What changes outside while a program runs. -/
structure World where
  /-- The OpenAL errors pending in each library. -/
  alErrors : LibraryId → List Int32
  /-- The errors pending in each queue of each library. -/
  alcErrors : LibraryId → Option Device → List Int32
  /-- The results that starting each library's headset runtime will have. -/
  startResults : LibraryId → List Int32
  /-- Whether each library's headset runtime has been given a callback for its messages. -/
  hasCallback : LibraryId → Bool
  /-- The installed handler, if there is one. -/
  handler : Option Handler
  /-- The number that the next opened library or supplied provider gets. -/
  nextNumber : Nat
  /-- All that happened, the latest first. -/
  history : List Event

/-- The world that a program starts in. -/
def World.initial (host : Host) (handler : Option Handler) : World where
  alErrors k := (host.library k).alErrors
  alcErrors k := (host.library k).alcErrors
  startResults k := (host.library k).runtime.results
  hasCallback _ := false
  handler := handler
  nextNumber := 0
  history := []

/-- The function with one value replaced. -/
def assign {α β : Type} [DecidableEq α] (f : α → β) (a : α) (b : β) : α → β :=
  fun x => if x = a then b else f x

@[simp] theorem assign_same {α β : Type} [DecidableEq α] (f : α → β) (a : α) (b : β) :
    assign f a b a = b := by simp [assign]

theorem assign_other {α β : Type} [DecidableEq α] (f : α → β) {a x : α} (b : β) (h : x ≠ a) :
    assign f a b x = f x := by simp [assign, h]

/-- The library of the host with this number. -/
def theLibrary {σ : Type} (k : LibraryId) : Action σ NativeLibrary := do
  return (← read).library k

/-- Records an event. -/
def emit (e : Event) : Action World Unit :=
  modify fun w => { w with history := e :: w.history }

/-- A number not given before. -/
def newNumber : Action World Nat :=
  modifyGet fun w => (w.nextNumber, { w with nextNumber := w.nextNumber + 1 })

/-- Hands a message to the installed handler, or to the default sink if there is none. A handler
that breaks off has taken the message, and stays installed. -/
def deliver (level : LogLevel) (text : String) : Action World Reception := do
  let handler := (← get).handler
  emit (.message (handler.map Handler.name) level text)
  return if handler.any Handler.breaksOff then .brokenOff else .completed

/-- Logs a message. How its receiver came out of it is not felt. -/
def log (level : LogLevel) (text : String) : Action World Unit := discard (deliver level text)

def setHandler (handler : Option Handler) : Action World Unit :=
  modify fun w => { w with handler }

end NativeBinding
