import NativeBinding.Binding.Failure
import NativeBinding.Text.Blank

/-! Versions as drivers report them: `<major>.<minor>[.<revision>] [implementation]`. -/
namespace NativeBinding.OpenCL

structure Version where
  major : UInt32
  minor : UInt32
  revision : Option UInt32 := none
  /-- What the vendor adds behind the numbers. -/
  implementation : Option String := none
  deriving DecidableEq

namespace Version

/-- True if the version is `major.minor` or later. -/
def atLeast (v : Version) (major minor : UInt32) : Bool :=
  major < v.major || (v.major == major && minor ≤ v.minor)

/-- The version as it is printed. -/
def text (v : Version) : String :=
  s!"{v.major.toNat}.{v.minor.toNat}" ++
    (v.revision.elim "" fun r => s!".{r.toNat}") ++
    (v.implementation.elim "" fun i => s!" {i}")

/-- The value of a run of decimal digits. -/
def decimal (digits : List Char) : Nat :=
  digits.foldl (fun n d => n * 10 + (d.toNat - '0'.toNat)) 0

/-- The number that a text starts with, and the rest. The digits run as far as they can and have
to fit 32 bits. -/
def leadingNumber? (cs : List Char) : Option (UInt32 × List Char) :=
  let digits := cs.takeWhile Char.isDigit
  if digits = [] then none
  else if decimal digits < UInt32.size then
    some (UInt32.ofNat (decimal digits), cs.dropWhile Char.isDigit)
  else none

/-- The text behind a dot, if it starts with one. -/
def afterDot? : List Char → Option (List Char)
  | '.' :: cs => some cs
  | _ => none

/-- The version that a text reports behind a leading word. -/
def read? (word text : List Char) : Option Version := do
  let rest := Text.trimStart (← word.isPrefixOf? text)
  let (major, rest) ← leadingNumber? rest
  let (minor, rest) ← leadingNumber? (← afterDot? rest)
  let (revision, rest) := match afterDot? rest >>= leadingNumber? with
    | some (revision, rest) => (some revision, rest)
    | none => (none, rest)
  let implementation := Text.trim rest
  return {
    major, minor, revision
    implementation :=
      if implementation = [] then none else some (String.ofList implementation) }

/-- The version that a text reports behind a leading word. No version is ever assumed: a text of
another shape is a failure. -/
def parse (text word : String) : Except Failure Version :=
  match read? word.toList text.toList with
  | some v => .ok v
  | none => .error (.versionParse text)

end Version

end NativeBinding.OpenCL
