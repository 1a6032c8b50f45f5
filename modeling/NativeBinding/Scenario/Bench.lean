import NativeBinding.LibOVR.Runtime
import NativeBinding.OpenAL.ErrorFlag
import NativeBinding.OpenCL.Owner
import NativeBinding.Scenario.Shelf

/-! The objects that a scenario works on, each under a name of its own kind, and the answers. -/
namespace NativeBinding.Scenario

open OpenCL

/-- A provider that the scenario holds. -/
structure Held where
  provider : Provider
  /-- Whether it is held without saying what kind of provider it is. -/
  isOpaque : Bool

/-- All objects of a scenario. -/
structure Bench where
  desk : Desk
  providers : Shelf Held := .empty
  owners : Shelf OwnerId := .empty
  handles : Shelf SessionId := .empty
  audio : Shelf OpenAL.AudioLibrary := .empty
  headsets : Shelf LibOVR.HeadsetRuntime := .empty

namespace Bench

/-- The bench that a scenario starts with. -/
def initial (world : World) : Bench where
  desk := .initial world

def putDesk (d : Desk) (b : Bench) : Bench := { b with desk := d }

instance : MonadLift (Action Desk) (Action Bench) := ⟨Action.onPart desk putDesk⟩

@[simp] theorem putDesk_desk (b : Bench) : putDesk b.desk b = b := rfl

@[simp] theorem run_liftDesk {α : Type} (x : Action Desk α) (host : Host) (b : Bench) :
    (liftM x : Action Bench α).run host b =
      ((x.run host b.desk).1, putDesk (x.run host b.desk).2 b) := rfl

/-- The name under which the owner that exists from the start is always found. -/
def globalName : String := "global"

/-- The owner under a name. -/
def owner? (b : Bench) (name : String) : Option OwnerId :=
  if name = globalName then some Desk.globalOwner else b.owners.get? name

end Bench

/-- What a command answers. -/
inductive Answer where
  /-- There is no object of that name. -/
  | noHandle
  | done
  /-- A call that can fail succeeded with this answer. -/
  | ok (answer : Answer)
  | failed (failure : Failure)
  | nothing
  | flag (value : Bool)
  | count (value : Nat)
  | text (value : String)
  | address (value : Address)
  | platforms (ids : List PlatformId)
  | strategy (value : Strategy)
  | library (name path : String) (isLoaded : Bool)
  | opaqueProvider
  | suppliedProvider
  | capabilities (value : Capabilities)
  /-- A session, with the names under which this same session is kept. -/
  | session (same : List String) (strategy : Option Strategy) (isActive : Bool)
  /-- All of a session that can be shown. -/
  | sessionState (value : Session)
  | audio
  | headset (value : LibOVR.HeadsetRuntime)

namespace Answer

/-- The answer of a call that can fail. -/
def ofExcept {α : Type} (f : α → Answer) : Except Failure α → Answer
  | .ok a => .ok (f a)
  | .error failure => .failed failure

def ofText : Option String → Answer
  | some value => .text value
  | none => .nothing

end Answer

/-- Does something with an object that may not be there. -/
def withObject {α : Type} (object : Option α) (x : α → Action Bench Answer) :
    Action Bench Answer :=
  match object with
  | some a => x a
  | none => return .noHandle

/-- What happens to an object that another has taken the name of, if there was one. -/
def dropOld {α : Type} (drop : α → Action Desk Unit) : Option α → Action Bench Unit
  | some old => drop old
  | none => return ()

end NativeBinding.Scenario
