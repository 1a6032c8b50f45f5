import NativeBinding.Native.Function
import NativeBinding.Text.Hexadecimal

/-! Addresses of native functions, which are what every lookup answers. -/
namespace NativeBinding

/-- What a lookup answers: nothing, a number that is not looked into, or the entry of a native
function. -/
inductive Address where
  | null
  | word (value : UInt64) (nonzero : value ≠ 0)
  | entry (library : LibraryId) (function : NativeFunction)
  deriving DecidableEq

/-- The native function `f` of a library, ready to be called. -/
structure Entry (f : NativeFunction) where
  library : LibraryId
  deriving DecidableEq

/-- Why an address cannot be read as a function of some type. -/
inductive CastFault where
  | notAddressSized
  deriving DecidableEq

def CastFault.message : CastFault → String
  | .notAddressSized => "function pointer type must be pointer-sized"

namespace Address

/-- The number of bytes of an address. -/
def size : Nat := 8

/-- The address with a numeric value, zero being the null address. -/
def ofWord (value : UInt64) : Address :=
  if h : value = 0 then .null else .word value h

/-- The numeric value of an address that is not an entry. -/
def word? : Address → Option UInt64
  | null => some 0
  | word value _ => some value
  | entry _ _ => none

def isNull : Address → Bool
  | null => true
  | word .. | entry .. => false

/-- The address, unless it is null. -/
def nonNull? (a : Address) : Option Address := if a.isNull then none else some a

/-- The address as a function that can be called, unless it is null. Nothing else is asked of it: a
caller takes it for the function that it was looked up as. What calling a number answers is up to
the host, like the functions of the library with that number. -/
def entryOf (f : NativeFunction) : Address → Option (Entry f)
  | null => none
  | word value _ => some ⟨value.toNat⟩
  | entry library _ => some ⟨library⟩

/-- The address as a function of a type with `bytes` bytes. The size is checked first. -/
def cast (bytes : Nat) (a : Address) : Except CastFault (Option Address) :=
  if bytes = size then .ok a.nonNull? else .error .notAddressSized

/-- The address for a reader. -/
def describe : Address → String
  | null => "FunctionAddress(NULL)"
  | word value _ => "FunctionAddress(" ++ Text.hexadecimal value.toNat ++ ")"
  | entry _ f => "FunctionAddress(" ++ f.name ++ ")"

/-- The first address unless it is null, else the second. -/
def orElse (a b : Address) : Address := if a.isNull then b else a

theorem isNull_iff {a : Address} : a.isNull = true ↔ a = null := by cases a <;> simp [isNull]

theorem entryOf_eq_none_iff {a : Address} {f : NativeFunction} :
    a.entryOf f = none ↔ a.isNull = true := by
  cases a <;> simp [entryOf, isNull]

@[simp] theorem isNull_ofWord {value : UInt64} : (ofWord value).isNull = (value == 0) := by
  unfold ofWord
  split <;> simp_all [isNull]

@[simp] theorem word?_ofWord {value : UInt64} : (ofWord value).word? = some value := by
  unfold ofWord
  split <;> simp_all [word?]

end Address

end NativeBinding
