import NativeBinding.Native.Event
import NativeBinding.Text.Outline

/-! The flags and parameters that the headset runtime is started with, and versions of its kit. -/
namespace NativeBinding.LibOVR

/-- A set of start flags. -/
structure StartFlags where
  bits : UInt32
  deriving DecidableEq

namespace StartFlags

def none : StartFlags := ⟨0⟩

/-- Debug behaviour of the runtime. -/
def debug : StartFlags := ⟨1⟩

/-- Succeed even if the service is not running. -/
def serverOptional : StartFlags := ⟨2⟩

/-- Ask for the minor version that the bindings are made for. -/
def requestVersion : StartFlags := ⟨4⟩

def forceNoDebug : StartFlags := ⟨8⟩

/-- The flags of both sets. -/
def union (a b : StartFlags) : StartFlags := ⟨a.bits ||| b.bits⟩

/-- True if every flag of `b` is in `a`. -/
def contains (a b : StartFlags) : Bool := a.bits &&& b.bits == b.bits

def outline (a : StartFlags) : Text.Outline := .wrap "InitFlags" (.ofNat a.bits.toNat)

end StartFlags

/-- The version of the kit that the bindings are made for: product, major, minor and patch. -/
def kitVersion : List Nat := [0, 7, 0, 0]

/-- The minor version that the runtime is asked for. -/
def minorVersion : UInt32 := 0

def buildNumber : Nat := 0

/-- The version of the kit as text. -/
def kitVersionText : String := ".".intercalate (kitVersion.map toString)

/-- The parameters by their parts, for a reader. -/
def parametersOutline (p : StartParameters) : Text.Outline :=
  .group .fields "ovrInitParams" [
    .field "Flags" (.ofNat p.flags.toNat),
    .field "RequestedMinorVersion" (.ofNat p.requestedMinorVersion.toNat),
    .field "LogCallback"
      (.ofOption (if p.hasCallback then some (.leaf "callback") else Option.none)),
    .field "UserData" (.ofNat p.userData.toNat),
    .field "ConnectionTimeoutMS" (.ofNat p.connectionTimeout.toNat)]

end NativeBinding.LibOVR
