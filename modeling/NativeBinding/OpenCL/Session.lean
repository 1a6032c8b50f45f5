import NativeBinding.OpenCL.Capabilities

/-!
Sessions. A session holds a provider until it is destroyed; handles to it may be kept longer, and
then every lookup through them answers null.
-/
namespace NativeBinding.OpenCL

/-- One of the instances that each own at most one session. -/
abbrev OwnerId := Nat

/-- A session, told from every other for as long as a handle to it is kept. -/
abbrev SessionId := Nat

structure Session where
  /-- The instance that created it. -/
  owner : OwnerId
  /-- The provider, until the session is destroyed. -/
  provider : Option Provider
  /-- What the library could do when the session was created. -/
  library : Capabilities
  /-- How extension functions are looked up, if a library was loaded for the session. -/
  strategy : Option Strategy

def Session.isActive (s : Session) : Bool := s.provider.isSome

/-- The session by its parts. -/
def Session.outline (s : Session) : Text.Outline :=
  .group .fields "ClSession" [
    .field "active" (.ofBool s.isActive),
    .field "strategy" (.ofOption (s.strategy.map Strategy.outline)),
    .field "icd" (.ofList (s.library.extensions.tags.map fun tag => .leaf (Text.quote tag)))]

/-- The world together with every session created in it. -/
structure Desk where
  world : World
  /-- All sessions ever created. -/
  sessions : SessionId → Option Session
  nextSession : SessionId
  /-- The session that each owner holds. -/
  held : OwnerId → Option SessionId
  nextOwner : OwnerId

namespace Desk

/-- The owner that exists from the start. -/
def globalOwner : OwnerId := 0

/-- The desk that a program starts with. -/
def initial (world : World) : Desk where
  world := world
  sessions _ := none
  nextSession := 0
  held _ := none
  nextOwner := globalOwner + 1

def putWorld (w : World) (d : Desk) : Desk := { d with world := w }

instance : MonadLift (Action World) (Action Desk) := ⟨Action.onPart world putWorld⟩

instance : MonadLift (Attempt World) (Attempt Desk) := ⟨Attempt.onPart world putWorld⟩

@[simp] theorem putWorld_world (d : Desk) : putWorld d.world d = d := rfl

@[simp] theorem run_liftAction {α : Type} (x : Action World α) (host : Host) (d : Desk) :
    (liftM x : Action Desk α).run host d =
      ((x.run host d.world).1, putWorld (x.run host d.world).2 d) := rfl

@[simp] theorem run_liftAttempt {α : Type} (x : Attempt World α) (host : Host) (d : Desk) :
    (liftM x : Attempt Desk α).run host d =
      ((x.run host d.world).1, putWorld (x.run host d.world).2 d) := rfl

/-- The provider of a session that is active. -/
def provider? (d : Desk) (s : SessionId) : Option Provider :=
  (d.sessions s).bind Session.provider

def isActive (d : Desk) (s : SessionId) : Bool := (d.provider? s).isSome

/-- Adds a session, which its owner holds from now on. -/
def addSession (session : Session) : Action Desk SessionId :=
  modifyGet fun d => (d.nextSession, { d with
    sessions := assign d.sessions d.nextSession (some session)
    nextSession := d.nextSession + 1
    held := assign d.held session.owner (some d.nextSession) })

/-- Takes the session away from an owner. -/
def takeSession (o : OwnerId) : Action Desk (Option SessionId) :=
  modifyGet fun d => (d.held o, { d with held := assign d.held o none })

/-- Takes the provider away from a session. -/
def takeProvider (s : SessionId) : Action Desk (Option Provider) :=
  modifyGet fun d => (d.provider? s, { d with
    sessions := assign d.sessions s ((d.sessions s).map fun x => { x with provider := none }) })

end Desk

namespace SessionId

/-- The provider of the session while it is active. -/
def provider? (s : SessionId) : Action Desk (Option Provider) := do
  return (← get).provider? s

/-- The address of a function, null if the session is no longer active. -/
def address (s : SessionId) (name : String) : Action Desk Address := do
  match ← s.provider? with
  | some provider => provider.address name
  | none => return .null

/-- The address of a function as one platform exposes it. -/
def addressFor (s : SessionId) (p : PlatformId) (name : String) : Action Desk Address := do
  match ← s.provider? with
  | some provider => provider.addressFor p name
  | none => return .null

/-- A native function of the session, if its name has the address of one. -/
def entryOf (s : SessionId) (f : NativeFunction) : Action Desk (Option (Entry f)) := do
  return (← s.address f.name).entryOf f

/-- All platforms of the library. -/
def platforms (s : SessionId) : Action Desk (List PlatformId) := do
  platformIds (← s.entryOf .platformIds)

/-- The text of a parameter of a platform. -/
def platformText (s : SessionId) (p : PlatformId) (parameter : PlatformParameter) :
    Action Desk (Option String) := do
  OpenCL.platformText (← s.entryOf .platformInfo) p parameter

/-- What a platform of the library can do. -/
def platformCapabilities (s : SessionId) (p : PlatformId) : Attempt Desk Capabilities := do
  match ← s.provider? with
  | some provider => Capabilities.ofPlatform provider p
  | none => throw Failure.notStarted

/-- Takes the provider from the session and releases it. -/
def release (s : SessionId) : Action Desk Unit := do
  match ← Desk.takeProvider s with
  | some provider => provider.releaseFully
  | none => return ()

end SessionId

end NativeBinding.OpenCL
