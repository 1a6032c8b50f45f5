import NativeBinding.Binding.Attempt
import NativeBinding.Binding.LibraryName
import NativeBinding.Native.World

/-! Shared libraries opened by name: loading with fallbacks, symbols, and release. -/
namespace NativeBinding

/-- An opened library as the loader knows it. -/
structure OpenLibrary where
  number : Nat
  /-- The name that the loader was given. -/
  file : String
  library : LibraryId

def OpenLibrary.serial (l : OpenLibrary) : Serial := .library l.number

/-- Asks the loader to open a file. A name that cannot be passed to it fails without asking. -/
def openFile (name : String) : Action World (Except OpenFault OpenLibrary) := do
  match LibraryName.native? name with
  | .error fault => return .error (.name fault)
  | .ok file =>
    match (← read).openFile file with
    | .opens library _ =>
      let opened : OpenLibrary := { number := ← newNumber, file, library }
      emit (.opened file (some opened.serial))
      return .ok opened
    | .fails text =>
      emit (.opened file none)
      return .error <| match text with
        | some text => .reported (Text.Utf8.untilNul text)
        | none => .unreported

/-- Why closing fails, if it does. -/
def CloseOutcome.fault? : CloseOutcome → Option CloseFault
  | closes => none
  | fails (some text) => some (.reported (Text.Utf8.untilNul text))
  | fails none => some .unreported

/-- Asks the loader to close a library. -/
def OpenLibrary.close (l : OpenLibrary) : Action World (Except CloseFault Unit) := do
  emit (.closed l.file l.serial)
  match ((← read).closing l.file).fault? with
  | none => return .ok ()
  | some fault => return .error fault

/-- A library that was opened at run time. -/
structure SharedLibrary where
  /-- The name it was requested by. -/
  name : String
  /-- The candidate that was opened. -/
  path : String
  /-- The opened library, until it is released. -/
  opened : Option OpenLibrary

namespace SharedLibrary

def isLoaded (l : SharedLibrary) : Bool := l.opened.isSome

/-- Opens one candidate and reports the outcome. -/
def openCandidate (name candidate : String) : Action World (Except OpenFault SharedLibrary) := do
  match ← openFile candidate with
  | .ok opened =>
    log .debug s!"Loaded native library {candidate}"
    return .ok { name, path := candidate, opened := some opened }
  | .error fault =>
    log .debug s!"Failed to load {candidate}: {fault.message}"
    return .error fault

/-- Tries candidates in order and keeps the first that opens. -/
def openFirst (name : String) : String → List String → Attempt World SharedLibrary
  | candidate, [] => do
    match ← openCandidate name candidate with
    | .ok library => return library
    | .error fault => throw (.libraryLoad name fault)
  | candidate, next :: candidates => do
    match ← openCandidate name candidate with
    | .ok library => return library
    | .error _ => openFirst name next candidates

/-- Loads a library by short name, file name or path. The fallbacks are tried in order when the
name itself cannot be opened. -/
def load (name : String) (fallbacks : List String) : Attempt World SharedLibrary :=
  if name = "" then throw (.invalidArgument "empty library name")
  else openFirst name (LibraryName.primary name) fallbacks

/-- The address of a symbol, null once the library is released. -/
def address (l : SharedLibrary) (name : String) : Action World Address := do
  match l.opened, LibraryName.native? name with
  | some opened, .ok symbol =>
    emit (.symbolRead opened.file opened.serial symbol)
    return (← theLibrary opened.library).symbol symbol
  | _, _ => return .null

/-- The report of a close that failed. -/
def unloadText (path : String) (fault : CloseFault) : String :=
  s!"Failed to unload {path}: {fault.message}"

/-- Closes the library unless that was done before. A close that fails is not tried again. -/
def release (l : SharedLibrary) : Action World SharedLibrary := do
  match l.opened with
  | none => return l
  | some opened =>
    match ← opened.close with
    | .ok () => pure ()
    | .error fault => log .warning (unloadText l.path fault)
    return { l with opened := none }

end SharedLibrary

end NativeBinding
