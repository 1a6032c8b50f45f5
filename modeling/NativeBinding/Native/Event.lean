import NativeBinding.Native.Function
import NativeBinding.Native.Log

/-! What can be observed of a run from outside. -/
namespace NativeBinding

/-- The parameters that the headset runtime is started with. -/
structure StartParameters where
  flags : UInt32 := 0
  requestedMinorVersion : UInt32 := 0
  hasCallback : Bool := false
  userData : UInt64 := 0
  connectionTimeout : UInt32 := 0
  deriving DecidableEq

/-- A call of a native function with the arguments it is given. -/
inductive NativeCall where
  | platformIds (entries : Nat) (buffer count : Bool)
  | platformInfo (platform : PlatformId) (parameter : PlatformParameter) (size : Nat)
      (buffer sizeOut : Bool)
  | extensionAddress (name : String)
  | platformExtensionAddress (platform : PlatformId) (name : String)
  | alError
  | alText (code : Int32)
  | alcError (device : Device)
  | alcText (device : Device) (code : Int32)
  | ovrStart (parameters : StartParameters)
  | ovrVersion
  | ovrShutdown
  deriving DecidableEq

/-- What tells one opened library or one provider of the application from every other: its kind, and
a number given only once. -/
inductive Serial where
  | library (number : Nat)
  /-- A provider that takes note of its release. -/
  | full (number : Nat)
  /-- A provider that does not. -/
  | plain (number : Nat)
  deriving DecidableEq

def Serial.number : Serial → Nat
  | library n | full n | plain n => n

inductive Event where
  /-- A message went to the handler of this name, or to the default sink. -/
  | message (receiver : Option String) (level : LogLevel) (text : String)
  /-- The loader was asked to open a file, and gave this library if it did. -/
  | opened (file : String) (opened : Option Serial)
  /-- The loader was asked to close an opened library. -/
  | closed (file : String) (opened : Serial)
  /-- A provider of the application was released. -/
  | released (provider : Serial) (library : LibraryId)
  | called (library : LibraryId) (call : NativeCall)
  /-- A provider of the application was asked for a name. -/
  | lookedUp (provider : Serial) (library : LibraryId) (name : String)
  | lookedUpFor (provider : Serial) (library : LibraryId) (platform : PlatformId) (name : String)
  /-- The loader was asked for a symbol of an opened library. -/
  | symbolRead (file : String) (opened : Serial) (name : String)
  /-- A program wrote a line. -/
  | printed (line : String)
  deriving DecidableEq

namespace Event

/-- How much detail a reader has to ask for to be shown the event: none for what changes hands,
one step for native calls, two for each single lookup. -/
def detail : Event → Nat
  | message .. | opened .. | closed .. | released .. | printed .. => 0
  | called _ (.extensionAddress _) | called _ (.platformExtensionAddress _ _) => 2
  | called .. => 1
  | lookedUp .. | lookedUpFor .. | symbolRead .. => 2

/-- The message of the event, without who received it. -/
def message? : Event → Option (LogLevel × String)
  | message _ level text => some (level, text)
  | _ => none

end Event

end NativeBinding
