/-! How the values of native calls lie in memory on a 64-bit machine. -/
namespace NativeBinding

/-- The size and alignment of a native type, in bytes. -/
structure Layout where
  size : Nat
  alignment : Nat
  deriving DecidableEq

namespace Layout

/-- Numbers of 32 bits: counts, codes and results. -/
def word32 : Layout := ⟨4, 4⟩

/-- Handles, addresses and functions. -/
def pointer : Layout := ⟨8, 8⟩

/-- The first multiple of the alignment that is not below `n`. -/
def alignUp (n alignment : Nat) : Nat := (n + alignment - 1) / alignment * alignment

/-- Where fields lie that follow each other from `start`, each at the next place that suits it, and
where the last ends. -/
def place (start : Nat) : List Layout → List Nat × Nat
  | [] => ([], start)
  | field :: fields =>
    let offset := alignUp start field.alignment
    let (offsets, stop) := place (offset + field.size) fields
    (offset :: offsets, stop)

/-- The offsets of the fields of a record. -/
def offsets (fields : List Layout) : List Nat := (place 0 fields).1

/-- A record of these fields, aligned at least as given. -/
def record (alignment : Nat) (fields : List Layout) : Layout :=
  let alignment := fields.foldl (fun a f => max a f.alignment) alignment
  ⟨alignUp (place 0 fields).2 alignment, alignment⟩

/-- The parameters that the headset runtime is started with: flags, minor version, callback, user
data and timeout. -/
def startParameters : List Layout := [word32, word32, pointer, pointer, word32]

/-- The alignment that the runtime asks for. -/
def startAlignment : Nat := 8

end Layout

end NativeBinding
