import NativeBinding.Scenario.Providers

/-! What a scenario can do with owners of sessions and with the handles to sessions. -/
namespace NativeBinding.Scenario

open OpenCL

/-- A command about owners and sessions. -/
inductive SessionCommand where
  | newOwner (owner : String)
  | dropOwner (owner : String)
  | create (owner : String) (config : Config) (as : Option String)
  | createFromLibrary (owner name : String) (as : Option String)
  | createFromProvider (owner : String) (source : Source) (as : Option String)
  | getOrCreate (owner : String) (config : Config) (as : Option String)
  | destroy (owner : String)
  | isCreated (owner : String)
  | current (owner : String) (as : Option String)
  | address (session name : String)
  | addressFor (session : String) (platform : PlatformId) (name : String)
  | library (session : String)
  | platforms (session : String)
  | platformText (session : String) (platform : PlatformId) (parameter : PlatformParameter)
  | platformCapabilities (session : String) (platform : PlatformId)
  | state (session : String)
  | dropHandle (session : String)

/-- Does something with the owner under a name. -/
def withOwner (name : String) (x : OwnerId → Action Bench Answer) : Action Bench Answer := do
  withObject ((← get).owner? name) x

/-- Does something with the session under a name. -/
def withSession (name : String) (x : SessionId → Action Bench Answer) : Action Bench Answer := do
  withObject ((← get).handles.get? name) x

/-- Keeps a handle under a name, if one is given. -/
def keepHandle (as : Option String) (s : SessionId) : Action Bench Unit :=
  match as with
  | some name => modify fun b => { b with handles := b.handles.put name s }
  | none => return ()

/-- Shows a session that was found or created, and then keeps a handle to it. -/
def answerSession (as : Option String) (s : SessionId) : Action Bench Answer := do
  let b ← get
  keepHandle as s
  return .session (b.handles.namesOf (· = s)) ((b.desk.sessions s).bind Session.strategy)
    (b.desk.isActive s)

/-- Shows the outcome of a creation. -/
def answerCreation (as : Option String) (x : Attempt Desk SessionId) : Action Bench Answer := do
  match ← x.outcome with
  | .ok s => return .ok (← answerSession as s)
  | .error failure => return .failed failure

namespace SessionCommand

def perform : SessionCommand → Action Bench Answer
  | newOwner name => do
    let o ← OwnerId.new
    let old := (← get).owners.get? name
    modify fun b => { b with owners := b.owners.put name o }
    dropOld OwnerId.destroy old
    return .done
  | dropOwner name => do
    let b ← get
    withObject (if name = Bench.globalName then none else b.owners.get? name) fun o => do
      modify fun b => { b with owners := b.owners.erase name }
      o.destroy
      return .done
  | create owner config as => withOwner owner fun o => answerCreation as (o.create config)
  | createFromLibrary owner name as =>
    withOwner owner fun o => answerCreation as (o.createFromLibrary name)
  | createFromProvider owner source as => withOwner owner fun o => do
    withObject (← source.take) fun held =>
      answerCreation as (o.createFromProvider held.provider)
  | getOrCreate owner config as => withOwner owner fun o => answerCreation as (o.getOrCreate config)
  | destroy owner => withOwner owner fun o => do
    o.destroy
    return .flag (← o.session?).isSome
  | isCreated owner => withOwner owner fun o => do
    return .flag (← o.session?).isSome
  | current owner as => withOwner owner fun o => do
    match ← o.session? with
    | some s => return .ok (← answerSession as s)
    | none => return .nothing
  | address session name => withSession session fun s => do
    return .address (← s.address name)
  | addressFor session platform name => withSession session fun s => do
    return .address (← s.addressFor platform name)
  | library session => withSession session fun s => do
    withObject ((← get).desk.sessions s) fun x => return .capabilities x.library
  | platforms session => withSession session fun s => do
    return .platforms (← s.platforms)
  | platformText session platform parameter => withSession session fun s => do
    return .ofText (← s.platformText platform parameter)
  | platformCapabilities session platform => withSession session fun s => do
    return .ofExcept .capabilities (← (s.platformCapabilities platform).outcome)
  | state session => withSession session fun s => do
    withObject ((← get).desk.sessions s) fun x => return .sessionState x
  | dropHandle name => withSession name fun _ => do
    modify fun b => { b with handles := b.handles.erase name }
    return .done

end SessionCommand

end NativeBinding.Scenario
