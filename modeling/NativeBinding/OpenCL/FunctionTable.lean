import NativeBinding.Native.Address

/-! Tables of resolved functions. A table exists only if every function of it resolved. -/
namespace NativeBinding.OpenCL

structure FunctionTable where
  name : String
  functions : List (String × Address)
  deriving DecidableEq

namespace FunctionTable

/-- Resolves names in order, and stops at the first that has no address. -/
def resolveAll {m : Type → Type} [Monad m] (lookup : String → m Address) :
    List String → m (Except String (List (String × Address)))
  | [] => return .ok []
  | f :: fs => do
    let found ← lookup f
    if found.isNull then return .error f
    else match ← resolveAll lookup fs with
      | .ok rest => return .ok ((f, found) :: rest)
      | .error missing => return .error missing

/-- The table of these functions, or the first of them that is missing. -/
def resolve {m : Type → Type} [Monad m] (name : String) (functions : List String)
    (lookup : String → m Address) : m (Except String FunctionTable) := do
  match ← resolveAll lookup functions with
  | .ok functions => return .ok { name, functions }
  | .error missing => return .error missing

/-- The address of a function, null if it is not in the table. -/
def get (t : FunctionTable) (function : String) : Address :=
  (t.functions.lookup function).getD .null

def size (t : FunctionTable) : Nat := t.functions.length

def isEmpty (t : FunctionTable) : Bool := t.functions.isEmpty

end FunctionTable

end NativeBinding.OpenCL
