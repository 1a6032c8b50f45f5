import NativeBinding.OpenAL.ErrorFlag
import NativeBinding.Programs.Console

/-! A program that prints an OpenAL driver's descriptions of the error codes. -/
namespace NativeBinding.Programs

open OpenAL

/-- Prints one code with its name and description. -/
def printCode (code : Int32) (name text : String) : Program :=
  print s!"  {Text.padRight 22 name} {Failure.codeText code}  {text}"

/-- Prints what is pending, then every code. -/
def errorCatalogue (config : Config) : Program := do
  print "OpenAL Error Translation (Rust)"
  print "==============================="
  print ""
  let a ← AudioLibrary.load config
  match ← a.check.outcome with
  | .ok () => print "alGetError: no error pending"
  | .error failure => print s!"alGetError: {failure.message}"
  match ← (a.checkDevice .null).outcome with
  | .ok () => print "alcGetError: no error pending"
  | .error failure => print s!"alcGetError: {failure.message}"
  print ""
  contextErrors.forM fun (code, name) => do printCode code name (← a.errorText code)
  print ""
  deviceErrors.forM fun (code, name) => do printCode code name (← a.deviceErrorText .null code)
  a.drop

end NativeBinding.Programs
