import NativeBinding.Binding.Config
import NativeBinding.Binding.Provider
import NativeBinding.OpenAL.ErrorCode

/-!
OpenAL reports failures through flags that have to be polled. Polling turns a pending code into a
failure with the driver's own description.
-/
namespace NativeBinding.OpenAL

/-- The names tried after the one that was asked for. -/
def libraryFallbacks : List String := ["libopenal.so.1"]

/-- The description of a code that the driver does not describe. -/
def unknownError : String := "Unknown OpenAL error"

/-- An OpenAL library with the entry points that report errors. -/
structure AudioLibrary where
  provider : Provider
  error : Entry .alError
  text : Entry .alText
  deviceError : Entry .alcError
  deviceText : Entry .alcText

/-- The description that a driver gave. -/
def describe : Option (List UInt8) → String
  | some bytes => Text.Utf8.nativeText bytes
  | none => unknownError

namespace AudioLibrary

/-- Resolves the entry points. The provider is released if one is missing. -/
def ofProvider (provider : Provider) : Attempt World AudioLibrary :=
  provider.releasedOnFailure do
    let error ← provider.requireEntry .alError
    let text ← provider.requireEntry .alText
    let deviceError ← provider.requireEntry .alcError
    let deviceText ← provider.requireEntry .alcText
    return { provider, error, text, deviceError, deviceText }

/-- Loads the library that the settings name. -/
def load (config : Config) : Attempt World AudioLibrary := do
  ofProvider (.shared (← SharedLibrary.load config.openALLibrary libraryFallbacks))

/-- The driver's description of a code. -/
def errorText (a : AudioLibrary) (code : Int32) : Action World String := do
  return describe (← Native.alText a.text code)

/-- The driver's description of a code of a device. -/
def deviceErrorText (a : AudioLibrary) (d : Device) (code : Int32) : Action World String := do
  return describe (← Native.alcText a.deviceText d code)

/-- Polls the flag. Polling clears it. -/
def check (a : AudioLibrary) : Attempt World Unit := do
  let code ← Native.alError a.error
  if code = noError then return ()
  else throw (.openAl code (← a.errorText code))

/-- Polls the flag of a device. Polling clears it. -/
def checkDevice (a : AudioLibrary) (d : Device) : Attempt World Unit := do
  let code ← Native.alcError a.deviceError d
  if code = noError then return ()
  else throw (.openAlc code (← a.deviceErrorText d code))

/-- What happens when nobody holds the library any more. -/
def drop (a : AudioLibrary) : Action World Unit := a.provider.releaseFully

/-- The library as it is shown; nothing of it is. -/
def outline : Text.Outline := .group .someFields "OpenAl" []

end AudioLibrary

end NativeBinding.OpenAL
