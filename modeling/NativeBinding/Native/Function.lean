/-! The native functions that are called, and the handles that are passed to them. -/
namespace NativeBinding

/-- Which of the native libraries of a host. -/
abbrev LibraryId := Nat

/-- The handle of an OpenCL platform; zero selects none. -/
structure PlatformId where
  raw : UInt64
  deriving DecidableEq

/-- No platform selected. -/
def PlatformId.null : PlatformId := ⟨0⟩

def PlatformId.isNull (p : PlatformId) : Bool := p.raw == 0

/-- The handle of an OpenAL device; zero stands for none. -/
structure Device where
  raw : UInt64
  deriving DecidableEq

/-- Errors that are not tied to a device. -/
def Device.null : Device := ⟨0⟩

def Device.isNull (d : Device) : Bool := d.raw == 0

/-- The native functions whose signature is known, so that an address of theirs can be called. -/
inductive NativeFunction where
  | platformIds
  | platformInfo
  | extensionAddress
  | platformExtensionAddress
  | alError
  | alText
  | alcError
  | alcText
  | ovrStart
  | ovrVersion
  | ovrShutdown
  deriving DecidableEq

namespace NativeFunction

/-- The name that a library exports the function under. -/
def name : NativeFunction → String
  | platformIds => "clGetPlatformIDs"
  | platformInfo => "clGetPlatformInfo"
  | extensionAddress => "clGetExtensionFunctionAddress"
  | platformExtensionAddress => "clGetExtensionFunctionAddressForPlatform"
  | alError => "alGetError"
  | alText => "alGetString"
  | alcError => "alcGetError"
  | alcText => "alcGetString"
  | ovrStart => "ovr_Initialize"
  | ovrVersion => "ovr_GetVersionString"
  | ovrShutdown => "ovr_Shutdown"

def all : List NativeFunction :=
  [platformIds, platformInfo, extensionAddress, platformExtensionAddress, alError, alText,
    alcError, alcText, ovrStart, ovrVersion, ovrShutdown]

/-- The function exported under a name. -/
def ofName? (name : String) : Option NativeFunction := all.find? (·.name = name)

end NativeFunction

/-- The string parameters that a platform can be asked for. -/
inductive PlatformParameter where
  | profile
  | version
  | name
  | vendor
  | extensions
  deriving DecidableEq

namespace PlatformParameter

/-- The number that stands for the parameter in a native call. -/
def code : PlatformParameter → UInt32
  | profile => 0x0900
  | version => 0x0901
  | name => 0x0902
  | vendor => 0x0903
  | extensions => 0x0904

def all : List PlatformParameter := [profile, version, name, vendor, extensions]

end PlatformParameter

end NativeBinding
