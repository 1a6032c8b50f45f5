import NativeBinding.Native.World
import NativeBinding.Text.Utf8

/-! Calls of native functions: what each records, changes and answers. -/
namespace NativeBinding.Native

/-- Counts the platforms: the status, and the number stored. -/
def countPlatforms (e : Entry .platformIds) : Action World (Int32 × Nat) := do
  emit (.called e.library (.platformIds 0 false true))
  let report := (← theLibrary e.library).platforms
  return (report.countStatus, report.count)

/-- Fetches platforms into a zeroed buffer of `entries` entries: the status, the buffer and the
number stored. Entries past the platforms stay null. -/
def fetchPlatforms (e : Entry .platformIds) (entries : Nat) :
    Action World (Int32 × (Nat → PlatformId) × Nat) := do
  emit (.called e.library (.platformIds entries true true))
  let report := (← theLibrary e.library).platforms
  return (report.fetchStatus, fun i => report.ids.getD i .null, report.returned)

/-- Asks for the size of a parameter's value: the status, and the size stored. -/
def infoSize (e : Entry .platformInfo) (p : PlatformId) (parameter : PlatformParameter) :
    Action World (Int32 × BufferSize) := do
  emit (.called e.library (.platformInfo p parameter 0 false true))
  let report := (← theLibrary e.library).info p parameter
  return (report.sizeStatus, if report.sizeStatus = Status.success then report.size else .zero)

/-- Asks for a parameter's value with a zeroed buffer of `size` bytes: the status, and the bytes
stored. The rest of the buffer stays zero. -/
def infoData (e : Entry .platformInfo) (p : PlatformId) (parameter : PlatformParameter)
    (size : BufferSize) : Action World (Int32 × List UInt8) := do
  emit (.called e.library (.platformInfo p parameter size.bytes true false))
  let report := (← theLibrary e.library).info p parameter
  return (report.dataStatus, report.bytes.take size.bytes)

def extensionAddress (e : Entry .extensionAddress) (name : String) : Action World Address := do
  emit (.called e.library (.extensionAddress name))
  return (← theLibrary e.library).extension name

def platformExtensionAddress (e : Entry .platformExtensionAddress) (p : PlatformId)
    (name : String) : Action World Address := do
  emit (.called e.library (.platformExtensionAddress p name))
  return (← theLibrary e.library).platformExtension p name

/-- The oldest pending code of a queue, zero if it is empty, and the queue without it. -/
def popCode : List Int32 → Int32 × List Int32
  | [] => (0, [])
  | code :: rest => (code, rest)

def alError (e : Entry .alError) : Action World Int32 := do
  emit (.called e.library .alError)
  modifyGet fun w =>
    let (code, rest) := popCode (w.alErrors e.library)
    (code, { w with alErrors := assign w.alErrors e.library rest })

def alText (e : Entry .alText) (code : Int32) : Action World (Option (List UInt8)) := do
  emit (.called e.library (.alText code))
  return (← theLibrary e.library).alText code

def alcError (e : Entry .alcError) (d : Device) : Action World Int32 := do
  emit (.called e.library (.alcError d))
  let queue := (← theLibrary e.library).queueOf d
  modifyGet fun w =>
    let (code, rest) := popCode (w.alcErrors e.library queue)
    let queues := assign (w.alcErrors e.library) queue rest
    (code, { w with alcErrors := assign w.alcErrors e.library queues })

def alcText (e : Entry .alcText) (d : Device) (code : Int32) :
    Action World (Option (List UInt8)) := do
  emit (.called e.library (.alcText d code))
  return (← theLibrary e.library).alcText d code

/-- Reports messages through the callback that the runtime was given, if it was given one. -/
def report (callback : RuntimeMessage → Action World Unit) (k : LibraryId)
    (messages : List RuntimeMessage) : Action World Unit := do
  if (← get).hasCallback k then messages.forM callback else return ()

/-- Starts the headset runtime: it remembers whether it was given a callback, reports its messages
and answers its next result. -/
def ovrStart (callback : RuntimeMessage → Action World Unit) (e : Entry .ovrStart)
    (parameters : StartParameters) : Action World Int32 := do
  emit (.called e.library (.ovrStart parameters))
  modify fun w => { w with hasCallback := assign w.hasCallback e.library parameters.hasCallback }
  report callback e.library (← theLibrary e.library).runtime.startMessages
  modifyGet fun w =>
    let (code, rest) := popCode (w.startResults e.library)
    (code, { w with startResults := assign w.startResults e.library rest })

def ovrVersion (callback : RuntimeMessage → Action World Unit) (e : Entry .ovrVersion) :
    Action World (Option (List UInt8)) := do
  emit (.called e.library .ovrVersion)
  report callback e.library (← theLibrary e.library).runtime.versionMessages
  return (← theLibrary e.library).runtime.version

def ovrShutdown (callback : RuntimeMessage → Action World Unit) (e : Entry .ovrShutdown) :
    Action World Unit := do
  emit (.called e.library .ovrShutdown)
  report callback e.library (← theLibrary e.library).runtime.shutdownMessages

end NativeBinding.Native
