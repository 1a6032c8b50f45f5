/-! The error codes of OpenAL, for contexts and for devices. -/
namespace NativeBinding.OpenAL

/-- No error is pending. -/
abbrev noError : Int32 := 0

/-- The codes of contexts, each with its name. -/
def contextErrors : List (Int32 × String) := [
  (0xA001, "AL_INVALID_NAME"),
  (0xA002, "AL_INVALID_ENUM"),
  (0xA003, "AL_INVALID_VALUE"),
  (0xA004, "AL_INVALID_OPERATION"),
  (0xA005, "AL_OUT_OF_MEMORY")]

/-- The codes of devices, each with its name. -/
def deviceErrors : List (Int32 × String) := [
  (0xA001, "ALC_INVALID_DEVICE"),
  (0xA002, "ALC_INVALID_CONTEXT"),
  (0xA003, "ALC_INVALID_ENUM"),
  (0xA004, "ALC_INVALID_VALUE"),
  (0xA005, "ALC_OUT_OF_MEMORY")]

end NativeBinding.OpenAL
