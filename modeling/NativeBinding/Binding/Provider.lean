import NativeBinding.Binding.SharedLibrary
import NativeBinding.Native.Call

/-!
Providers: everything that answers names with addresses. A resolver is a provider around another
one; releasing it releases what is inside.
-/
namespace NativeBinding

/-- How a resolver looks up extension functions. -/
inductive Strategy where
  /-- Through the lookup that needs no platform. -/
  | generic
  /-- Through the lookup for one platform, always for this one. -/
  | perPlatform (platform : PlatformId)
  deriving DecidableEq

/-- A provider that the application implements on top of a native library. -/
structure SuppliedProvider where
  number : Nat
  library : LibraryId
  /-- Whether it also answers for single platforms and takes note of its release. -/
  isFull : Bool

def SuppliedProvider.serial (p : SuppliedProvider) : Serial :=
  if p.isFull then .full p.number else .plain p.number

/-- What a resolver keeps beside the provider it is built around. -/
structure Resolver where
  /-- The lookup that needs no platform, if there is one. -/
  generic : Option (Entry .extensionAddress)
  /-- The lookup for one platform, if there is one. -/
  perPlatform : Option (Entry .platformExtensionAddress)
  strategy : Strategy
  released : Bool := false

/-- Anything that answers names with addresses. -/
inductive Provider where
  | supplied (provider : SuppliedProvider)
  | shared (library : SharedLibrary)
  | resolver (resolver : Resolver) (inner : Provider)

namespace Resolver

/-- Asks the lookup that needs no platform for an extension function. -/
def askGeneric (r : Resolver) (name : String) : Action World Address :=
  match r.generic with
  | some e => Native.extensionAddress e name
  | none => return .null

/-- Asks the lookup for one platform for an extension function. -/
def askPlatform (r : Resolver) (p : PlatformId) (name : String) : Action World Address :=
  match r.perPlatform with
  | some e => Native.platformExtensionAddress e p name
  | none => return .null

/-- Asks the lookup that the strategy prescribes. -/
def ask (r : Resolver) (name : String) : Action World Address :=
  match r.strategy with
  | .generic => r.askGeneric name
  | .perPlatform p => r.askPlatform p name

/-- True if the resolver passes the name on: it is not released, and the name can be a native
string. -/
def accepts (r : Resolver) (name : String) : Bool := !r.released && !Text.holdsNul name

end Resolver

namespace Provider

/-- A new provider of the application on top of a library. -/
def supply (library : LibraryId) (isFull : Bool) : Action World Provider := do
  return .supplied { number := ← newNumber, library, isFull }

/-- The address of a name, or null. -/
def address : Provider → String → Action World Address
  | .supplied p, name => do
    emit (.lookedUp p.serial p.library name)
    return (← theLibrary p.library).symbol name
  | .shared library, name => library.address name
  | .resolver r inner, name => do
    if r.accepts name then
      let found ← r.ask name
      if found.isNull then address inner name else return found
    else return .null

/-- The address of a name as one platform exposes it, or null. -/
def addressFor (provider : Provider) (p : PlatformId) (name : String) : Action World Address :=
  match provider with
  | .supplied s => do
    if s.isFull then
      emit (.lookedUpFor s.serial s.library p name)
      return (← theLibrary s.library).platformExtension p name
    else return .null
  | .shared _ => return .null
  | .resolver r _ => if r.accepts name then r.askPlatform p name else return .null

/-- Lets go of the native resources behind the provider. Only the first release of a library or a
resolver does anything. -/
def release : Provider → Action World Provider
  | .supplied p => do
    if p.isFull then emit (.released p.serial p.library) else pure ()
    return .supplied p
  | .shared library => return .shared (← library.release)
  | .resolver r inner => do
    if r.released then return .resolver r inner
    else return .resolver { r with released := true } (← release inner)

/-- Releases a provider that is not used again. -/
def releaseFully (provider : Provider) : Action World Unit := discard provider.release

/-- What happens when nobody holds the provider any more: what it opened is released, unless it was
before. -/
def drop (provider : Provider) : Action World Unit :=
  match provider with
  | .supplied _ => return ()
  | .shared _ | .resolver .. => provider.releaseFully

/-- The address of a name that has to be there. -/
def require (provider : Provider) (name : String) : Attempt World Address := do
  let found ← provider.address name
  if found.isNull then throw (.missingCoreFunction name) else return found

/-- A native function of the provider, unless its name is answered with null. -/
def entryOf (provider : Provider) (f : NativeFunction) : Action World (Option (Entry f)) := do
  return (← provider.address f.name).entryOf f

/-- A native function that has to be there. -/
def requireEntry (provider : Provider) (f : NativeFunction) : Attempt World (Entry f) := do
  match ← provider.entryOf f with
  | some e => return e
  | none => throw (.missingCoreFunction f.name)

/-- Runs the last steps of a construction around the provider, and releases it if they fail. -/
def releasedOnFailure {α : Type} (provider : Provider) (x : Attempt World α) : Attempt World α :=
  tryCatch x fun failure => do
    provider.releaseFully
    throw failure

end Provider

/-- The handle of a platform by its number. -/
def PlatformId.outline (p : PlatformId) : Text.Outline :=
  .wrap "PlatformId" (.ofNat p.raw.toNat)

/-- The strategy by its parts. -/
def Strategy.outline : Strategy → Text.Outline
  | generic => .leaf "Generic"
  | perPlatform p => .wrap "PerPlatform" p.outline

end NativeBinding
