import Mathlib.Data.List.Nodup
import NativeBinding.Scenario.Shelf

/-! What is on a shelf, and how much it all weighs together. -/
namespace NativeBinding.Scenario

variable {α : Type} {a x : α} {name : String}

theorem mem_of_lookup {es : List (String × α)} (h : es.lookup name = some a) : (name, a) ∈ es := by
  obtain ⟨before, after, rfl, -⟩ := List.lookup_eq_some_iff.mp h
  simp

theorem lookup_of_mem {es : List (String × α)} (hunique : (es.map Prod.fst).Nodup)
    (h : (name, a) ∈ es) : es.lookup name = some a := by
  induction es with
  | nil => cases h
  | cons e es ih =>
    obtain ⟨n, b⟩ := e
    rw [List.map_cons, List.nodup_cons] at hunique
    rcases List.mem_cons.mp h with heq | hrest
    · cases heq
      exact List.lookup_cons_self
    · have hn : name ≠ n := by
        rintro rfl
        exact hunique.1 (List.mem_map.mpr ⟨_, hrest, rfl⟩)
      rw [List.lookup_cons, beq_eq_false_iff_ne.mpr hn]
      exact ih hunique.2 hrest

/-- The weights of all members of a list, added up. -/
def total (g : α → Nat) (xs : List α) : Nat := xs.foldr (fun a n => g a + n) 0

@[simp] theorem total_nil (g : α → Nat) : total g [] = 0 := rfl

@[simp] theorem total_cons (g : α → Nat) (xs : List α) : total g (a :: xs) = g a + total g xs := rfl

theorem total_perm (g : α → Nat) {xs ys : List α} (h : xs.Perm ys) : total g xs = total g ys := by
  induction h with
  | nil => rfl
  | cons x _ ih => simp [ih]
  | swap x y _ =>
    simp only [total_cons]
    omega
  | trans _ _ ih ih' => exact ih.trans ih'

namespace Shelf

variable {s : Shelf α}

@[simp] theorem values_empty : (empty : Shelf α).values = [] := rfl

theorem mem_values : x ∈ s.values ↔ ∃ n, (n, x) ∈ s.entries := by
  simp [values]

theorem mem_values_of_get? (h : s.get? name = some a) : a ∈ s.values :=
  mem_values.mpr ⟨name, mem_of_lookup h⟩

theorem mem_values_of_erase (h : x ∈ (s.erase name).values) : x ∈ s.values := by
  obtain ⟨n, hn⟩ := mem_values.mp h
  exact mem_values.mpr ⟨n, (List.mem_filter.mp hn).1⟩

/-- Erasing a name takes away only what is under it. -/
theorem mem_values_erase (h : x ∈ s.values) (hother : s.get? name ≠ some x) :
    x ∈ (s.erase name).values := by
  obtain ⟨n, hn⟩ := mem_values.mp h
  refine mem_values.mpr ⟨n, List.mem_filter.mpr ⟨hn, ?_⟩⟩
  have hne : n ≠ name := by
    rintro rfl
    exact hother (lookup_of_mem s.unique hn)
  simpa using hne

theorem erase_of_none (h : s.get? name = none) : s.erase name = s := by
  obtain ⟨es, hunique⟩ := s
  have hkeep : es.filter (fun e => decide (e.1 ≠ name)) = es := by
    rw [List.filter_eq_self]
    intro e he
    have hne : e.1 ≠ name := by
      rintro rfl
      have hsome := lookup_of_mem hunique he
      simp only [get?] at h
      simp [h] at hsome
    simpa using hne
  simp only [erase, hkeep]

theorem values_erase_sublist (s : Shelf α) (name : String) :
    (s.erase name).values.Sublist s.values :=
  List.filter_sublist.map _

theorem values_put_perm (s : Shelf α) (name : String) (a : α) :
    (s.put name a).values.Perm (a :: (s.erase name).values) :=
  (place_perm name a (s.erase name).entries).map Prod.snd

theorem mem_values_put : x ∈ (s.put name a).values ↔ x = a ∨ x ∈ (s.erase name).values := by
  rw [(s.values_put_perm name a).mem_iff, List.mem_cons]

/-- A value that is there once has one name. -/
theorem get?_inj {other : String} (hdistinct : s.values.Nodup) (h : s.get? name = some a)
    (h' : s.get? other = some a) : name = other := by
  have hsame := List.inj_on_of_nodup_map hdistinct (mem_of_lookup h) (mem_of_lookup h') rfl
  exact congrArg Prod.fst hsame

/-- The weights of all values, added up. -/
def weigh (g : α → Nat) (s : Shelf α) : Nat := total g s.values

/-- The weight of the value under a name. -/
def weighAt (g : α → Nat) (s : Shelf α) (name : String) : Nat := ((s.get? name).map g).getD 0

theorem weigh_erase (g : α → Nat) (s : Shelf α) (name : String) :
    s.weighAt g name + (s.erase name).weigh g = s.weigh g := by
  obtain ⟨es, hunique⟩ := s
  simp only [weighAt, weigh, get?, erase, values]
  induction es with
  | nil => rfl
  | cons e es ih =>
    obtain ⟨n, b⟩ := e
    rw [List.map_cons, List.nodup_cons] at hunique
    have hrest := ih hunique.2
    by_cases hn : name = n
    · subst hn
      have hkeep : es.filter (fun e => decide (e.1 ≠ name)) = es := by
        rw [List.filter_eq_self]
        intro e he
        have hne : e.1 ≠ name := by
          rintro rfl
          exact hunique.1 (List.mem_map.mpr ⟨e, he, rfl⟩)
        simpa using hne
      simp only [List.lookup_cons_self, Option.map_some, Option.getD_some, List.map_cons,
        total_cons]
      rw [List.filter_cons_of_neg (by simp), hkeep]
    · rw [List.lookup_cons, beq_eq_false_iff_ne.mpr hn]
      have hn' : n ≠ name := fun h => hn h.symm
      simp only [List.filter_cons, hn', ne_eq, not_false_eq_true, decide_true, if_true,
        List.map_cons, total_cons] at hrest ⊢
      omega

theorem weigh_put (g : α → Nat) (s : Shelf α) (name : String) (a : α) :
    s.weighAt g name + (s.put name a).weigh g = g a + s.weigh g := by
  have hput : (s.put name a).weigh g = g a + (s.erase name).weigh g := by
    rw [weigh, total_perm g (s.values_put_perm name a), total_cons, weigh]
  have herase := s.weigh_erase g name
  omega

theorem weighAt_le (g : α → Nat) (s : Shelf α) (name : String) :
    s.weighAt g name ≤ s.weigh g := by
  have herase := s.weigh_erase g name
  omega

theorem le_weigh (g : α → Nat) (h : x ∈ s.values) : g x ≤ s.weigh g := by
  obtain ⟨n, hn⟩ := mem_values.mp h
  have hat : s.weighAt g n = g x := by
    simp [weighAt, get?, lookup_of_mem s.unique hn]
  exact hat ▸ s.weighAt_le g n

end Shelf

end NativeBinding.Scenario
