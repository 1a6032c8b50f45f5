import NativeBinding.Native.Address
import NativeBinding.Text.Utf8

/-! Tables from names to addresses: some names are listed, the others follow a rule. -/
namespace NativeBinding

/-- A table of names. Without a base, a name that is not listed has no address. -/
structure SymbolTable where
  listed : List (String × Address) := []
  base : Option UInt64 := none

namespace SymbolTable

/-- The bytes of a name, each times its place counted from one, added up. -/
def weight (name : String) : Nat :=
  ((Text.Utf8.encode name).zipIdx 1).foldl (fun sum (b, place) => sum + place * b.toNat) 0

/-- The address of a name. The base serves names that are not listed and are not those of
functions with a known signature. -/
def address (t : SymbolTable) (name : String) : Address :=
  match t.listed.lookup name, t.base with
  | some a, _ => a
  | none, some base =>
    if (NativeFunction.ofName? name).isSome then .null
    else .ofWord (base + UInt64.ofNat (weight name))
  | none, none => .null

end SymbolTable

end NativeBinding
