import NativeBinding.Native.Library
import NativeBinding.Text.Utf8

/-! The host: its native libraries, and what its loader answers about file names. -/
namespace NativeBinding

/-- What closing a library answers. -/
inductive CloseOutcome where
  | closes
  /-- Closing fails, with a text if the system has one. -/
  | fails (text : Option (List UInt8))

/-- What opening a file answers. -/
inductive OpenOutcome where
  | opens (library : LibraryId) (closing : CloseOutcome)
  /-- Opening fails, with a text if the system has one. -/
  | fails (text : Option (List UInt8))

/-- The answer about a file that does not exist. -/
def OpenOutcome.notFound (file : String) : OpenOutcome :=
  .fails (some (Text.Utf8.encode
    (file ++ ": cannot open shared object file: No such file or directory")))

/-- What a program runs on. No step of the program changes it. -/
structure Host where
  library : LibraryId → NativeLibrary
  openFile : String → OpenOutcome

namespace Host

/-- What closing an opened file answers. -/
def closing (host : Host) (file : String) : CloseOutcome :=
  match host.openFile file with
  | .opens _ closing => closing
  | .fails _ => .closes

/-- The host with these libraries and files. -/
def ofLists (libraries : List NativeLibrary) (files : List (String × OpenOutcome)) : Host where
  library k := libraries.getD k {}
  openFile file := (files.lookup file).getD (.notFound file)

end Host

end NativeBinding
