import NativeBinding.Programs.PlatformOverview

/-! A program that opens the OpenCL library itself and makes a session of it. -/
namespace NativeBinding.Programs

open OpenCL

/-- Loads the library of this name, or else the one that the settings name, and makes a session.
A second session is refused. -/
def ownProvider (config : Config) (name : Option String) : Program := do
  let name := name.getD config.openCLLibrary
  let library ← SharedLibrary.load name []
  let resolver ← resolverFor (.shared library)
  print s!"Extension lookup: {resolver.strategy.outline.inline}"
  let owner ← OwnerId.new
  let s ← owner.createFromProvider (.resolver resolver (.shared library))
  match (← getThe Desk).sessions s with
  | some session => print s!"ICD tables: {tagList session.library.extensions}"
  | none => pure ()
  let platforms ← s.platforms
  print s!"Platforms: {platforms.length}"
  match ← (owner.createFromLibrary name).outcome with
  | .error failure => print s!"Second create: {failure.message}"
  | .ok _ => pure ()
  owner.destroy

end NativeBinding.Programs
