import NativeBinding.OpenCL.CapabilitySet
import NativeBinding.OpenCL.Feature
import NativeBinding.OpenCL.FunctionTable
import NativeBinding.OpenCL.Resolution

/-! What an OpenCL library or one of its platforms can do. -/
namespace NativeBinding.OpenCL

structure Capabilities where
  /-- The version of the platform; a library has none. -/
  version : Option Version
  extensions : CapabilitySet
  tables : List FunctionTable
  deriving DecidableEq

/-- The table of a feature, or the first of its functions that is missing. -/
def Feature.resolve (feature : Feature) (lookup : String → Action World Address) :
    Action World (Except String FunctionTable) :=
  FunctionTable.resolve feature.tag feature.functions lookup

/-- Keeps what belongs to an extension if the set advertises it. An advertised extension with a
missing entry point is reported once and left out. -/
def CapabilitySet.gate {α : Type} (s : CapabilitySet) (extension : String)
    (found : Except String α) : Action World (Option α) := do
  if s.contains extension then
    match found with
    | .ok a => return some a
    | .error missing =>
      log .warning <| s!"[CL] {extension} was reported as available but an entry point is " ++
        s!"missing ({missing})."
      return none
  else return none

namespace Capabilities

/-- The table of a capability tag, if it is supported and complete. -/
def table? (c : Capabilities) (tag : String) : Option FunctionTable :=
  c.tables.find? (·.name = tag)

def contains (c : Capabilities) (tag : String) : Bool := c.extensions.contains tag

/-- The tables of a library that resolve. Those of version 1.0 have to. -/
def libraryTables (provider : Provider) : List Feature → Attempt World (List FunctionTable)
  | [] => return []
  | feature :: features => do
    match ← feature.resolve provider.address with
    | .ok table => return table :: (← libraryTables provider features)
    | .error missing =>
      if feature = .core10 then throw (.missingCoreFunction missing)
      else libraryTables provider features

/-- What a library can do before any platform is chosen: the tags are those of the tables that
resolve. -/
def ofLibrary (provider : Provider) : Attempt World Capabilities := do
  let tables ← libraryTables provider Feature.all
  return {
    version := none
    extensions := .ofList (tables.map FunctionTable.name)
    tables }

/-- The address of a name as the platform exposes it, or else as the library does. -/
def platformAddress (provider : Provider) (p : PlatformId) (name : String) :
    Action World Address := do
  let found ← provider.addressFor p name
  if found.isNull then provider.address name else return found

/-- The tables of a platform that its set admits. -/
def platformTables (provider : Provider) (p : PlatformId) (s : CapabilitySet) :
    List Feature → Action World (List FunctionTable)
  | [] => return []
  | feature :: features => do
    let found ← feature.resolve (platformAddress provider p)
    let admitted ← s.gate feature.tag found
    return admitted.toList ++ (← platformTables provider p s features)

/-- What one platform can do, gated by its version and extensions. -/
def ofPlatform (provider : Provider) (p : PlatformId) : Attempt World Capabilities := do
  let entry ← provider.requireEntry .platformInfo
  match ← platformText entry p .version with
  | none => throw (.platformQuery "CL_PLATFORM_VERSION")
  | some text =>
    match Version.parse text versionWord with
    | .error failure => throw failure
    | .ok version =>
      let names ← platformText entry p .extensions
      let extensions := CapabilitySet.build version (names.getD "")
      let tables ← platformTables provider p extensions Feature.all
      return { version := some version, extensions, tables }

end Capabilities

end NativeBinding.OpenCL
