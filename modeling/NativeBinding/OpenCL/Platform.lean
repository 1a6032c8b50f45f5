import NativeBinding.Native.Call

/-! Enumerating platforms and asking them for text. -/
namespace NativeBinding.OpenCL

/-- The number of platforms. A missing function or a failed call counts as none. -/
def platformCount (entry : Option (Entry .platformIds)) : Action World Nat := do
  match entry with
  | none => return 0
  | some e =>
    let (status, count) ← Native.countPlatforms e
    return if status = Status.success then count else 0

/-- All platforms. They are fetched into as many entries as were counted, and no more are taken than
were both counted and returned. -/
def platformIds (entry : Option (Entry .platformIds)) : Action World (List PlatformId) := do
  match entry, ← platformCount entry with
  | none, _ | some _, 0 => return []
  | some e, count =>
    let (status, buffer, returned) ← Native.fetchPlatforms e count
    return if status = Status.success then (List.range (min returned count)).map buffer else []

/-- The text of a parameter: its size is asked for first, then as many bytes. Nothing is known if
the function is missing or a call fails. -/
def platformText (entry : Option (Entry .platformInfo)) (p : PlatformId)
    (parameter : PlatformParameter) : Action World (Option String) := do
  match entry with
  | none => return none
  | some e =>
    let (status, size) ← Native.infoSize e p parameter
    if status ≠ Status.success then return none
    else if size.bytes = 0 then return some ""
    else
      let (status, bytes) ← Native.infoData e p parameter size
      return if status = Status.success then some (Text.Utf8.nativeText bytes) else none

end NativeBinding.OpenCL
