import NativeBinding.Text.Utf8

/-! Values kept under names, in the order of the names. -/
namespace NativeBinding.Scenario

open Text.Utf8 (Before)

variable {α : Type}

/-- Puts an entry before the first one with a later name. -/
def place (name : String) (a : α) : List (String × α) → List (String × α)
  | [] => [(name, a)]
  | e :: es => if Before name e.1 then (name, a) :: e :: es else e :: place name a es

theorem place_perm (name : String) (a : α) (es : List (String × α)) :
    (place name a es).Perm ((name, a) :: es) := by
  induction es with
  | nil => exact .refl _
  | cons e es ih =>
    unfold place
    split
    · exact .refl _
    · exact (ih.cons e).trans (.swap ..)

/-- Values under names, each name once. -/
structure Shelf (α : Type) where
  entries : List (String × α)
  unique : (entries.map Prod.fst).Nodup

namespace Shelf

/-- The shelf without values. -/
def empty : Shelf α := ⟨[], List.nodup_nil⟩

def get? (s : Shelf α) (name : String) : Option α := s.entries.lookup name

/-- The shelf without the value under a name. -/
def erase (s : Shelf α) (name : String) : Shelf α where
  entries := s.entries.filter fun e => e.1 ≠ name
  unique := s.unique.sublist (List.filter_sublist.map _)

theorem not_mem_erase (s : Shelf α) (name : String) :
    name ∉ (s.erase name).entries.map Prod.fst := by
  simp [erase]

/-- The shelf with a value put under a name, in place of the one that was there. -/
def put (s : Shelf α) (name : String) (a : α) : Shelf α where
  entries := place name a (s.erase name).entries
  unique := ((place_perm name a _).map _).nodup_iff.mpr
    (List.nodup_cons.mpr ⟨s.not_mem_erase name, (s.erase name).unique⟩)

/-- The values in the order of their names. -/
def values (s : Shelf α) : List α := s.entries.map Prod.snd

/-- The names of the values that satisfy a condition. -/
def namesOf (s : Shelf α) (p : α → Bool) : List String :=
  (s.entries.filter fun e => p e.2).map Prod.fst

end Shelf

end NativeBinding.Scenario
