import NativeBinding.Binding.Provider
import NativeBinding.OpenCL.Platform
import NativeBinding.OpenCL.Version

/-!
Choosing how extension functions are looked up. The lookup that needs no platform is preferred,
since an installable client driver dispatches to the vendor anyway; the lookup for one platform is
used only if there is exactly one and it supports version 1.2.
-/
namespace NativeBinding.OpenCL

/-- The word that versions follow. -/
def versionWord : String := "OpenCL"

/-- True if the platform reports version 1.2 or later. A platform that cannot be asked does not; a
version that cannot be read is a failure. -/
def supports12 (provider : Provider) (p : PlatformId) : Attempt World Bool := do
  let entry ← provider.entryOf .platformInfo
  match ← platformText entry p .version with
  | none => return false
  | some text =>
    match Version.parse text versionWord with
    | .ok v => return v.atLeast 1 2
    | .error failure => throw failure

/-- The single platform, if it supports version 1.2. Any other number of platforms is a failure if
the generic lookup, to be used instead, is null. -/
def solePlatform (provider : Provider) (generic : Address) : Attempt World (Option PlatformId) := do
  let found ← provider.require NativeFunction.platformIds.name
  let entry := found.entryOf .platformIds
  let count ← platformCount entry
  if count = 1 then
    match ← platformIds entry with
    | [] => return none
    | p :: _ =>
      let supported ← supports12 provider p
      return if supported then some p else none
  else if generic.isNull then throw (.ambiguousPlatform count)
  else return none

/-- The strategy for a provider that answers with these two addresses for the lookups. They are
tested for null only, and not called. -/
def chooseStrategy (provider : Provider) (generic perPlatform : Address) :
    Attempt World Strategy := do
  let selected ← (if perPlatform.isNull then pure none else solePlatform provider generic)
  match selected with
  | some p => return .perPlatform p
  | none =>
    if generic.isNull then throw (.missingCoreFunction NativeFunction.extensionAddress.name)
    else return .generic

/-- Builds a resolver around a provider. The provider is released if no strategy can be chosen. -/
def resolverFor (provider : Provider) : Attempt World Resolver := do
  let generic ← provider.address NativeFunction.extensionAddress.name
  let perPlatform ← provider.address NativeFunction.platformExtensionAddress.name
  let strategy ← provider.releasedOnFailure (chooseStrategy provider generic perPlatform)
  log .debug s!"[CL] Extension functions resolved with {strategy.outline.inline}"
  return {
    generic := generic.entryOf .extensionAddress
    perPlatform := perPlatform.entryOf .platformExtensionAddress
    strategy }

end NativeBinding.OpenCL
