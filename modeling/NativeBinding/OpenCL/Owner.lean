import NativeBinding.Binding.Config
import NativeBinding.OpenCL.Session

/-! Owners of sessions: creating, finding and destroying the one session that each may hold. -/
namespace NativeBinding.OpenCL

/-- The names tried after the one that was asked for. -/
def libraryFallbacks : List String := ["libOpenCL.so.1"]

namespace OwnerId

/-- A new owner, which holds nothing. -/
def new : Action Desk OwnerId :=
  modifyGet fun d => (d.nextOwner, { d with nextOwner := d.nextOwner + 1 })

/-- The session that the owner holds. -/
def session? (o : OwnerId) : Action Desk (Option SessionId) := do
  return (← get).held o

/-- Makes a session around a provider and gives it to the owner. The provider is released if the
library lacks a function of version 1.0. -/
def install (o : OwnerId) (provider : Provider) (strategy : Option Strategy) :
    Attempt Desk SessionId := do
  let library ← provider.releasedOnFailure (Capabilities.ofLibrary provider)
  let s ← Desk.addSession { owner := o, provider := some provider, library, strategy }
  log .info "[CL] OpenCL created"
  return s

/-- Loads a library and makes a session of it. -/
def loadSession (o : OwnerId) (name : String) : Attempt Desk SessionId := do
  let library ← SharedLibrary.load name libraryFallbacks
  let resolver ← resolverFor (.shared library)
  o.install (.resolver resolver (.shared library)) (some resolver.strategy)

/-- Creates a session from the library of this name. If there is a session, nothing is loaded. -/
def createFromLibrary (o : OwnerId) (name : String) : Attempt Desk SessionId := do
  match ← o.session? with
  | some _ => throw .alreadyStarted
  | none => o.loadSession name

/-- Creates a session from the library that the settings name. -/
def create (o : OwnerId) (config : Config) : Attempt Desk SessionId :=
  o.createFromLibrary config.openCLLibrary

/-- Creates a session around a provider of the application, which is released if that fails. -/
def createFromProvider (o : OwnerId) (provider : Provider) : Attempt Desk SessionId := do
  match ← o.session? with
  | some _ =>
    provider.releaseFully
    throw .alreadyStarted
  | none => o.install provider none

/-- The session of the owner, which is created if there is none and the settings allow it. -/
def getOrCreate (o : OwnerId) (config : Config) : Attempt Desk SessionId := do
  match ← o.session? with
  | some s => return s
  | none =>
    if config.explicitStart then throw .notStarted
    else o.loadSession config.openCLLibrary

/-- Takes the session from the owner and releases it. Without a session nothing happens. -/
def destroy (o : OwnerId) : Action Desk Unit := do
  match ← Desk.takeSession o with
  | none => return ()
  | some s =>
    s.release
    log .info "[CL] OpenCL destroyed"

end OwnerId

end NativeBinding.OpenCL
