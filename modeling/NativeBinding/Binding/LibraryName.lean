import NativeBinding.Binding.Failure
import NativeBinding.Text.Blank

/-!
Names of libraries: which are taken for files, which file a short name stands for, and what of a
name reaches the loader.
-/
namespace NativeBinding.LibraryName

/-- A component of a path. -/
inductive Component where
  | root
  | here
  | parent
  | name (text : List Char)
  deriving DecidableEq

/-- The component that a segment between slashes stands for. An empty segment and a dot stand for
none. -/
def Component.ofSegment? (segment : List Char) : Option Component :=
  if segment = [] ∨ segment = ['.'] then none
  else if segment = ['.', '.'] then some .parent
  else some (.name segment)

/-- The components of a path. A dot counts only as the first segment of a relative path. -/
def components (path : List Char) : List Component :=
  match path.splitOn '/' with
  | [] :: segments =>
    (if path = [] then [] else [.root]) ++ segments.filterMap Component.ofSegment?
  | ['.'] :: segments => .here :: segments.filterMap Component.ofSegment?
  | segments => segments.filterMap Component.ofSegment?

/-- The file name that a path ends in, if it does. -/
def fileName? (path : List Char) : Option (List Char) :=
  match (components path).getLast? with
  | some (.name text) => some text
  | some .root | some .here | some .parent | none => none

/-- What follows the last dot of a file name, unless that dot is its first character. -/
def extension? (path : List Char) : Option (List Char) := do
  let file ← fileName? path
  let (behind, rest) := file.reverse.span (· ≠ '.')
  match rest with
  | _ :: _ :: _ => some behind.reverse
  | [] | [_] => none

def isAbsolute (path : List Char) : Bool := path.head? == some '/'

/-- True if the name already looks like a file. -/
def isFile (name : String) : Bool :=
  decide (1 < (components name.toList).length) || (extension? name.toList).isSome ||
    isAbsolute name.toList

/-- The file name of a library with a short name. -/
def fileFor (name : String) : String := "lib" ++ name ++ ".so"

/-- The first name to try. -/
def primary (name : String) : String := if isFile name then name else fileFor name

/-- The name as it reaches the loader: one NUL at the end is dropped, and none may be left. -/
def native? (name : String) : Except NameFault String :=
  if name.toList.getLast? = some '\x00' then
    let body := String.ofList name.toList.dropLast
    if Text.holdsNul body then .error .nulBeforeLast else .ok body
  else if Text.holdsNul name then .error .nulInside
  else .ok name

end NativeBinding.LibraryName
