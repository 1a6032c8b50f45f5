import NativeBinding.Scenario.Bench

/-! What a scenario can do with providers and the platforms behind them. -/
namespace NativeBinding.Scenario

open OpenCL

/-- Where a provider comes from. -/
inductive Source where
  /-- A new provider of the application on top of a library. -/
  | supplied (library : LibraryId)
  /-- The same, without answers for single platforms. -/
  | plain (library : LibraryId)
  /-- The provider under a name, which loses that name. -/
  | named (name : String)

/-- Takes a provider from its source. -/
def Source.take : Source → Action Bench (Option Held)
  | .supplied k => do return some { provider := ← Provider.supply k true, isOpaque := false }
  | .plain k => do return some { provider := ← Provider.supply k false, isOpaque := true }
  | .named name => modifyGet fun b =>
    (b.providers.get? name, { b with providers := b.providers.erase name })

/-- Puts a provider under a name. The one that was there is dropped. -/
def keepProvider (name : String) (held : Held) : Action Bench Unit := do
  let old := (← get).providers.get? name
  modify fun b => { b with providers := b.providers.put name held }
  dropOld (fun held => held.provider.drop) old

/-- A command about providers. -/
inductive ProviderCommand where
  | load (name : String) (fallbacks : List String) (as : String)
  | resolver (source : Source) (as : String)
  | keep (source : Source) (isOpaque : Bool) (as : String)
  | state (provider : String)
  | address (provider name : String)
  | addressFor (provider : String) (platform : PlatformId) (name : String)
  | require (provider name : String)
  | release (provider : String)
  | drop (provider : String)
  | libraryCapabilities (provider : String)
  | platformCapabilities (provider : String) (platform : PlatformId)
  /-- The next three call a native function of a provider, or of none. -/
  | platformCount (provider : Option String)
  | platformIds (provider : Option String)
  | platformText (provider : Option String) (platform : PlatformId)
      (parameter : PlatformParameter)

/-- What a provider shows of itself. -/
def Held.answer (held : Held) : Answer :=
  if held.isOpaque then .opaqueProvider
  else match held.provider with
    | .supplied _ => .suppliedProvider
    | .shared l => .library l.name l.path l.isLoaded
    | .resolver r _ => .strategy r.strategy

/-- Does something with the provider under a name. -/
def withProvider (name : String) (x : Provider → Action Bench Answer) : Action Bench Answer := do
  withObject ((← get).providers.get? name) fun held => x held.provider

/-- Does something with a native function of a provider, or without one. -/
def withEntry (provider : Option String) (f : NativeFunction)
    (x : Option (Entry f) → Action Bench Answer) : Action Bench Answer :=
  match provider with
  | none => x none
  | some name => withProvider name fun p => do x (← p.entryOf f)

namespace ProviderCommand

def perform : ProviderCommand → Action Bench Answer
  | load name fallbacks as => do
    match ← (SharedLibrary.load name fallbacks).outcome with
    | .ok library =>
      keepProvider as { provider := .shared library, isOpaque := false }
      return .ok (.library library.name library.path library.isLoaded)
    | .error failure => return .failed failure
  | resolver source as => do
    withObject (← source.take) fun held => do
      match ← (resolverFor held.provider).outcome with
      | .ok r =>
        keepProvider as { provider := .resolver r held.provider, isOpaque := false }
        return .ok (.strategy r.strategy)
      | .error failure => return .failed failure
  | keep source isOpaque as => do
    withObject (← source.take) fun held => do
      keepProvider as { held with isOpaque := held.isOpaque || isOpaque }
      return .done
  | state name => do
    withObject ((← get).providers.get? name) fun held => return held.answer
  | address provider name => withProvider provider fun p => do
    return .address (← p.address name)
  | addressFor provider platform name => withProvider provider fun p => do
    return .address (← p.addressFor platform name)
  | require provider name => withProvider provider fun p => do
    return .ofExcept .address (← (p.require name).outcome)
  | release name => do
    withObject ((← get).providers.get? name) fun held => do
      let provider ← held.provider.release
      modify fun b => { b with providers := b.providers.put name { held with provider } }
      return .done
  | drop name => do
    withObject (← (Source.named name).take) fun held => do
      held.provider.drop
      return .done
  | libraryCapabilities provider => withProvider provider fun p => do
    return .ofExcept .capabilities (← (Capabilities.ofLibrary p).outcome)
  | platformCapabilities provider platform => withProvider provider fun p => do
    return .ofExcept .capabilities (← (Capabilities.ofPlatform p platform).outcome)
  | platformCount provider => withEntry provider .platformIds fun entry => do
    return .count (← OpenCL.platformCount entry)
  | platformIds provider => withEntry provider .platformIds fun entry => do
    return .platforms (← OpenCL.platformIds entry)
  | platformText provider platform parameter => withEntry provider .platformInfo fun entry => do
    return .ofText (← OpenCL.platformText entry platform parameter)

end ProviderCommand

end NativeBinding.Scenario
