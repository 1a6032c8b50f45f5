import NativeBinding.Native.Address
import NativeBinding.Native.Status

/-!
Native libraries as far as a caller can tell them apart: what they export and what their functions
answer. Answers that change from call to call are given as queues.
-/
namespace NativeBinding

/-- What the enumeration of platforms answers. The three numbers need not agree. -/
structure PlatformReport where
  ids : List PlatformId := []
  /-- The number reported when no buffer is given. -/
  count : Nat := ids.length
  countStatus : Int32 := Status.success
  /-- The number reported when the buffer has been filled. -/
  returned : Nat := ids.length
  fetchStatus : Int32 := Status.success

/-- The greatest number of bytes that a buffer can have: one less than half of all addresses. No
value is longer, and asking for a longer buffer ends a program before any answer. -/
def bufferLimit : Nat := UInt64.size / 2 - 1

/-- A number of bytes for which there is a buffer. -/
structure BufferSize where
  bytes : Nat
  bytes_le : bytes ≤ bufferLimit

namespace BufferSize

/-- The size of a buffer for so many bytes, or for as many of them as one can have. -/
def ofLength (n : Nat) : BufferSize := ⟨min n bufferLimit, Nat.min_le_right n bufferLimit⟩

instance : Coe Nat BufferSize := ⟨ofLength⟩

def zero : BufferSize := ⟨0, Nat.zero_le bufferLimit⟩

end BufferSize

/-- What the query of one parameter of a platform answers: first its size, then its bytes. The two
need not agree, but the size is one that a buffer can have. -/
structure InfoReport where
  sizeStatus : Int32 := Status.success
  size : BufferSize := .zero
  dataStatus : Int32 := Status.success
  bytes : List UInt8 := []

/-- The answer about a parameter that is not known. -/
def InfoReport.invalidValue : InfoReport :=
  ⟨Status.invalidValue, .zero, Status.invalidValue, []⟩

/-- A message that the headset runtime reports: its level, and its text if it has one. -/
structure RuntimeMessage where
  level : Int32
  text : Option (List UInt8)

/-- How a headset runtime behaves. -/
structure RuntimeReport where
  /-- The results of starting it, one a call; zero once they are used up. -/
  results : List Int32 := []
  startMessages : List RuntimeMessage := []
  version : Option (List UInt8) := none
  versionMessages : List RuntimeMessage := []
  shutdownMessages : List RuntimeMessage := []

/-- A native library. -/
structure NativeLibrary where
  /-- What it exports. -/
  symbol : String → Address := fun _ => .null
  /-- What its lookup of extension functions answers. -/
  extension : String → Address := fun _ => .null
  /-- What its lookup of extension functions of one platform answers. -/
  platformExtension : PlatformId → String → Address := fun _ _ => .null
  platforms : PlatformReport := {}
  info : PlatformId → PlatformParameter → InfoReport := fun _ _ => .invalidValue
  /-- The OpenAL errors that are pending, oldest first. -/
  alErrors : List Int32 := []
  alText : Int32 → Option (List UInt8) := fun _ => none
  /-- Which devices have an error queue of their own; the others share one. -/
  hasOwnQueue : Device → Bool := fun _ => false
  /-- The errors pending for a device with a queue of its own, or in the shared queue. -/
  alcErrors : Option Device → List Int32 := fun _ => []
  alcText : Device → Int32 → Option (List UInt8) := fun _ _ => none
  runtime : RuntimeReport := {}

namespace NativeLibrary

/-- The queue that holds the errors of a device. -/
def queueOf (l : NativeLibrary) (d : Device) : Option Device :=
  if l.hasOwnQueue d then some d else none

end NativeLibrary

end NativeBinding
