import NativeBinding.Text.Hexadecimal
import NativeBinding.Text.Outline
import NativeBinding.Text.Quoted

/-! What can go wrong, and how each failure is worded. -/
namespace NativeBinding

/-- Why a name cannot be passed to the loader. -/
inductive NameFault where
  /-- The name holds a NUL and does not end in one. -/
  | nulInside
  /-- The name ends in a NUL and holds another. -/
  | nulBeforeLast
  deriving DecidableEq

def NameFault.message : NameFault → String
  | .nulInside => "could not create a C string from bytes"
  | .nulBeforeLast => "could not create a C string from bytes with trailing null"

/-- Why a file was not opened. -/
inductive OpenFault where
  | name (fault : NameFault)
  /-- The system gave this text, as bytes without a NUL. -/
  | reported (text : List UInt8)
  | unreported
  deriving DecidableEq

namespace OpenFault

def message : OpenFault → String
  | name fault => fault.message
  | reported text => Text.Utf8.decodeLossy text
  | unreported => "dlopen failed, but system did not report the error"

def outline : OpenFault → Text.Outline
  | name .nulInside => .leaf "CreateCString"
  | name .nulBeforeLast => .leaf "CreateCStringWithTrailing"
  | reported text =>
    .group .fields "DlOpen" [.field "desc" (.leaf (Text.quoteBytes text))]
  | unreported => .leaf "DlOpenUnknown"

end OpenFault

/-- Why an opened library was not closed. -/
inductive CloseFault where
  | reported (text : List UInt8)
  | unreported
  deriving DecidableEq

def CloseFault.message : CloseFault → String
  | .reported text => Text.Utf8.decodeLossy text
  | .unreported => "dlclose failed, but system did not report the error"

/-- The failures that the bindings report. -/
inductive Failure where
  /-- No candidate for a library could be opened; the fault is that of the last. -/
  | libraryLoad (name : String) (fault : OpenFault)
  /-- An entry point that the binding cannot work without is absent. -/
  | missingCoreFunction (name : String)
  /-- There is no single platform to resolve through, and no lookup that needs none. -/
  | ambiguousPlatform (platforms : Nat)
  | versionParse (input : String)
  | alreadyStarted
  | notStarted
  | openAl (code : Int32) (text : String)
  | openAlc (code : Int32) (text : String)
  | ovr (code : Int32)
  /-- A platform did not report a parameter. -/
  | platformQuery (parameter : String)
  | invalidArgument (what : String)
  deriving DecidableEq

namespace Failure

open Text (Outline)

/-- A code as it is printed: its 32 bits in hexadecimal. -/
def codeText (code : Int32) : String := Text.hexCode code.toUInt32.toNat

def message : Failure → String
  | libraryLoad name fault => s!"Failed to load native library '{name}': {fault.message}"
  | missingCoreFunction name =>
    s!"A core function is missing: {name}. Make sure that the native library is available."
  | ambiguousPlatform platforms =>
    s!"Cannot pick a platform for extension lookup: {platforms} platforms " ++
      "and no clGetExtensionFunctionAddress"
  | versionParse input => s!"Malformed API version string [{input}]"
  | alreadyStarted => "OpenCL has already been created"
  | notStarted => "OpenCL has not been created"
  | openAl code text => s!"OpenAL error {codeText code}: {text}"
  | openAlc code text => s!"OpenAL context error {codeText code}: {text}"
  | ovr code => s!"LibOVR call failed with result {code.toInt}"
  | platformQuery parameter => s!"clGetPlatformInfo failed to report {parameter}"
  | invalidArgument what => s!"Invalid argument: {what}"

/-- True for failures that leave the native library unusable. -/
def isFatal : Failure → Bool
  | libraryLoad .. | missingCoreFunction _ | ambiguousPlatform _ | versionParse _ => true
  | alreadyStarted | notStarted | openAl .. | openAlc .. | ovr _ | platformQuery _
  | invalidArgument _ => false

/-- The fault beneath the failure, if there is one. -/
def source? : Failure → Option OpenFault
  | libraryLoad _ fault => some fault
  | _ => none

/-- The failure by its parts, for a reader who looks for the cause. -/
def outline : Failure → Outline
  | libraryLoad name fault =>
    .group .fields "LibraryLoad"
      [.field "name" (.leaf (Text.quote name)), .field "source" fault.outline]
  | missingCoreFunction name => .wrap "MissingCoreFunction" (.leaf (Text.quote name))
  | ambiguousPlatform platforms =>
    .group .fields "AmbiguousPlatformResolution" [.field "platforms" (.ofNat platforms)]
  | versionParse input =>
    .group .fields "VersionParse" [.field "input" (.leaf (Text.quote input))]
  | alreadyStarted => .leaf "AlreadyInitialized"
  | notStarted => .leaf "NotInitialized"
  | openAl code text =>
    .group .fields "OpenAl"
      [.field "code" (.ofInt code.toInt), .field "message" (.leaf (Text.quote text))]
  | openAlc code text =>
    .group .fields "OpenAlc"
      [.field "code" (.ofInt code.toInt), .field "message" (.leaf (Text.quote text))]
  | ovr code => .group .fields "Ovr" [.field "code" (.ofInt code.toInt)]
  | platformQuery parameter =>
    .group .fields "PlatformQuery" [.field "param" (.leaf (Text.quote parameter))]
  | invalidArgument what => .wrap "InvalidArgument" (.leaf (Text.quote what))

end Failure

end NativeBinding
