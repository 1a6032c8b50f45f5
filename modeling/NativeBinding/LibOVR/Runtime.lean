import NativeBinding.Binding.Config
import NativeBinding.Binding.Provider
import NativeBinding.LibOVR.StartFlags

/-!
The lifecycle of the headset runtime: loading, starting with its messages routed into the log, the
version query, and shutdown.
-/
namespace NativeBinding.LibOVR

abbrev debugLevel : Int32 := 0
abbrev infoLevel : Int32 := 1
abbrev errorLevel : Int32 := 2

/-- The severity of a level that the runtime reports. A level that is not known is information. -/
def levelOf (level : Int32) : LogLevel :=
  if level = debugLevel then .debug else if level = errorLevel then .error else .info

/-- Passes a message of the runtime on to the log. A message without text is passed over. -/
def forward (m : RuntimeMessage) : Action World Unit :=
  match m.text with
  | some text => log (levelOf m.level) s!"LibOVR: {Text.Utf8.nativeText text}"
  | none => return ()

/-- A loaded runtime. -/
structure HeadsetRuntime where
  provider : Provider
  startEntry : Entry .ovrStart
  versionEntry : Entry .ovrVersion
  shutdownEntry : Entry .ovrShutdown
  isStarted : Bool

namespace HeadsetRuntime

/-- Resolves the entry points. The provider is released if one is missing. -/
def ofProvider (provider : Provider) : Attempt World HeadsetRuntime :=
  provider.releasedOnFailure do
    let startEntry ← provider.requireEntry .ovrStart
    let versionEntry ← provider.requireEntry .ovrVersion
    let shutdownEntry ← provider.requireEntry .ovrShutdown
    return { provider, startEntry, versionEntry, shutdownEntry, isStarted := false }

/-- Loads the runtime that the settings name. -/
def load (config : Config) : Attempt World HeadsetRuntime := do
  ofProvider (.shared (← SharedLibrary.load config.libOVRLibrary []))

/-- Starts the runtime. A negative result is a failure and leaves it as it was. -/
def start (r : HeadsetRuntime) (flags : StartFlags) : Attempt World HeadsetRuntime := do
  if r.isStarted then throw .alreadyStarted
  else
    let result ← Native.ovrStart forward r.startEntry {
      flags := flags.bits, requestedMinorVersion := minorVersion, hasCallback := true }
    if result < 0 then throw (.ovr result)
    else
      log .info s!"LibOVR initialized (flags {Text.hexadecimal flags.bits.toNat})"
      return { r with isStarted := true }

/-- The version that the runtime reports, if it reports one. -/
def versionText (r : HeadsetRuntime) : Action World (Option String) := do
  return (← Native.ovrVersion forward r.versionEntry).map Text.Utf8.nativeText

/-- Shuts the runtime down, if it is started. -/
def shutdown (r : HeadsetRuntime) : Action World HeadsetRuntime := do
  if r.isStarted then
    Native.ovrShutdown forward r.shutdownEntry
    log .info "LibOVR shut down"
    return { r with isStarted := false }
  else return r

/-- What happens when nobody holds the runtime any more: it is shut down, then released. -/
def drop (r : HeadsetRuntime) : Action World Unit := do
  (← r.shutdown).provider.releaseFully

/-- The runtime by its parts. -/
def outline (r : HeadsetRuntime) : Text.Outline :=
  .group .someFields "LibOvr" [.field "initialized" (.ofBool r.isStarted)]

end HeadsetRuntime

end NativeBinding.LibOVR
