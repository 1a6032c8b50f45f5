import NativeBinding.OpenCL.Owner

/-! Programs that print lines, and what is left of a run of one. -/
namespace NativeBinding.Programs

open OpenCL

/-- What a program does. Its failure, if it fails, is the last thing that it reports. -/
abbrev Program : Type := Attempt Desk Unit

/-- Prints a line. -/
def print (line : String) : Program := do
  emit (.printed line)

/-- What a run leaves behind. -/
structure Outcome where
  exitCode : Nat
  output : String
  errors : String
  deriving DecidableEq

/-- What an event shows on the console: lines that the program prints, and messages to a handler it
installed. The default sink shows nothing. -/
def consoleLine : Event → Option String
  | .printed line => some line
  | .message (some _) level text => some s!"[{level.name}] {text}"
  | _ => none

/-- The text of lines, each ended. -/
def endLines (lines : List String) : String := String.join (lines.map (· ++ "\n"))

/-- Runs a program on a host. -/
def execute (program : Program) (host : Host) : Outcome :=
  let (result, desk) := program.run host (.initial (.initial host none))
  let output := endLines (desk.world.history.reverse.filterMap consoleLine)
  match result with
  | .ok () => { exitCode := 0, output, errors := "" }
  | .error failure =>
    { exitCode := 1, output, errors := endLines ["Error: " ++ failure.outline.inline] }

end NativeBinding.Programs
