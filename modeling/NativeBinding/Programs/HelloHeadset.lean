import NativeBinding.LibOVR.Runtime
import NativeBinding.Programs.Console

/-! A program that starts the headset runtime and prints its version. -/
namespace NativeBinding.Programs

open LibOVR

/-- Starts the runtime with its messages on the console, and shuts it down. -/
def helloHeadset (config : Config) : Program := do
  print "Hello LibOVR (Rust)"
  print "==================="
  print ""
  setHandler (some { name := "console" })
  print s!"Runtime: {config.libOVRLibrary}"
  print s!"Bindings SDK version: {kitVersionText} (build {buildNumber})"
  let r ← HeadsetRuntime.load config
  match ← (r.start (StartFlags.debug.union .requestVersion)).outcome with
  | .error failure =>
    print s!"ovr_Initialize failed: {failure.message}"
    setHandler none
    r.drop
    throw failure
  | .ok r =>
    print "ovr_Initialize = ok"
    print ("ovr_GetVersionString = " ++ (← r.versionText).getD "<none>")
    let r ← r.shutdown
    setHandler none
    r.drop

end NativeBinding.Programs
