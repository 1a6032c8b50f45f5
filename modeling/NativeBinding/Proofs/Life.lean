import NativeBinding.Binding.SharedLibrary

/-!
What a history says about one opened library, or about one provider that the application has handed
over: it is opened at most once, looked into only while it is live, and ended at most once.
-/
namespace NativeBinding

namespace Event

/-- The library that the event opens. -/
def opens? : Event → Option Serial
  | .opened _ k => k
  | _ => none

/-- What the event closes or releases. -/
def ends? : Event → Option Serial
  | .closed _ k | .released k _ => some k
  | _ => none

/-- What the event looks a name up in. -/
def consults? : Event → Option Serial
  | .lookedUp k .. | .lookedUpFor k .. | .symbolRead _ k _ => some k
  | _ => none

/-- True if the event asks something of native code: to open, to look up or to call. -/
def isUse : Event → Bool
  | .opened .. | .called .. | .lookedUp .. | .lookedUpFor .. | .symbolRead .. => true
  | .message .. | .closed .. | .released .. | .printed .. => false

def isEnd (e : Event) : Bool := e.ends?.isSome

/-- The event is a report that a library could not be closed. -/
def IsUnloadReport : Event → Prop
  | .message _ level text => level = .warning ∧ ∃ path fault,
      text = SharedLibrary.unloadText path fault
  | _ => False

end Event

inductive Life where
  | unopened
  | live
  | ended
  /-- Something happened out of turn. -/
  | violated
  deriving DecidableEq

namespace Life

/-- The life of `k` after one more event. -/
def step (k : Serial) (life : Life) (e : Event) : Life :=
  if e.opens? = some k then if life = unopened then live else violated
  else if e.consults? = some k then if life = live then live else violated
  else if e.ends? = some k then if life = live then ended else violated
  else life

/-- The life of `k` after these events. -/
def after (k : Serial) (life : Life) (es : List Event) : Life := es.foldl (step k) life

/-- How many objects hold something of this life. -/
def holders : Life → Nat
  | live => 1
  | unopened | ended | violated => 0

variable {k : Serial} {life : Life}

@[simp] theorem after_nil : after k life [] = life := rfl

@[simp] theorem after_cons (e : Event) (es : List Event) :
    after k life (e :: es) = after k (step k life e) es := rfl

theorem after_append (es es' : List Event) :
    after k life (es ++ es') = after k (after k life es) es' := by
  simp [after]

theorem holders_pos : 0 < life.holders ↔ life = live := by
  cases life <;> simp [holders]

theorem holders_le_one : life.holders ≤ 1 := by
  cases life <;> simp [holders]

theorem step_violated (e : Event) : step k violated e = violated := by
  simp only [step, reduceCtorEq, if_false]
  split <;> simp

theorem after_violated (es : List Event) : after k violated es = violated := by
  induction es with
  | nil => rfl
  | cons e es ih => rw [after_cons, step_violated, ih]

/-- What is not opened stays so, or something happens out of turn. -/
theorem after_unopened {es : List Event} (h : ∀ e ∈ es, e.opens? ≠ some k) :
    after k unopened es = unopened ∨ after k unopened es = violated := by
  induction es with
  | nil => exact .inl rfl
  | cons e es ih =>
    have hstep : step k unopened e = unopened ∨ step k unopened e = violated := by
      have hopen := h e (by simp)
      simp only [step, hopen, if_false, reduceCtorEq]
      split
      · exact .inr rfl
      · split
        · exact .inr rfl
        · exact .inl rfl
    rw [after_cons]
    rcases hstep with hstep | hstep
    · rw [hstep]
      exact ih fun e he => h e (List.mem_cons_of_mem _ he)
    · rw [hstep]
      exact .inr (after_violated es)

theorem after_ne_unopened (es : List Event) (h : life ≠ unopened) :
    after k life es ≠ unopened := by
  induction es generalizing life with
  | nil => exact h
  | cons e es ih =>
    refine ih ?_
    unfold step
    repeat' split
    all_goals simp [h]

/-- What was opened is not unopened any more. -/
theorem after_opened {es : List Event} (h : ∃ e ∈ es, e.opens? = some k) :
    after k unopened es ≠ unopened := by
  induction es with
  | nil => simp at h
  | cons e es ih =>
    rw [after_cons]
    by_cases hopen : e.opens? = some k
    · exact after_ne_unopened es (by simp [step, hopen])
    · have hrest : ∃ e ∈ es, e.opens? = some k := by
        obtain ⟨e', he', hopen'⟩ := h
        rcases List.mem_cons.mp he' with rfl | he'
        · exact (hopen hopen').elim
        · exact ⟨e', he', hopen'⟩
      by_cases hstep : step k unopened e = unopened
      · rw [hstep]
        exact ih hrest
      · exact after_ne_unopened es hstep

/-- What nobody holds any more, and what was opened in its turn, has ended. -/
theorem eq_ended (hlife : life ≠ violated) (hholders : life.holders = 0) (h : life ≠ unopened) :
    life = ended := by
  cases life <;> simp_all [holders]

/-- How often something of this life was opened or handed over. -/
def begun : Life → Nat
  | unopened => 0
  | live | ended | violated => 1

/-- How often something of this life was closed or released. -/
def finished : Life → Nat
  | ended => 1
  | unopened | live | violated => 0

/-- What has begun and is not over is held. -/
theorem begun_eq (h : life ≠ violated) : life.begun = life.finished + life.holders := by
  cases life <;> simp_all [begun, finished, holders]

theorem count_step {e : Event} (h : life.step k e ≠ violated) :
    life.begun + (if e.opens? = some k then 1 else 0) = (life.step k e).begun ∧
      life.finished + (if e.ends? = some k then 1 else 0) = (life.step k e).finished := by
  have hends : e.opens? = some k ∨ e.consults? = some k → e.ends? = none := by
    cases e <;> simp [Event.opens?, Event.consults?, Event.ends?]
  unfold step at h ⊢
  by_cases hopen : e.opens? = some k
  · simp only [hopen, if_true, hends (.inl hopen)] at h ⊢
    cases life <;> simp_all [begun, finished]
  · by_cases hconsult : e.consults? = some k
    · simp only [hopen, hconsult, if_true, if_false, hends (.inr hconsult)] at h ⊢
      cases life <;> simp_all
    · simp only [hopen, hconsult, if_false] at h ⊢
      by_cases hend : e.ends? = some k
      · simp only [hend, if_true] at h ⊢
        cases life <;> simp_all [begun, finished]
      · simp [hend]

/-- As long as nothing happens out of turn, a life says how often something was opened and ended. -/
theorem count_after {es : List Event} (h : life.after k es ≠ violated) :
    life.begun + es.countP (fun e => e.opens? = some k) = (life.after k es).begun ∧
      life.finished + es.countP (fun e => e.ends? = some k) = (life.after k es).finished := by
  induction es generalizing life with
  | nil => exact ⟨rfl, rfl⟩
  | cons e es ih =>
    have hstep : life.step k e ≠ violated := by
      intro hviolated
      rw [after_cons, hviolated] at h
      exact h (after_violated es)
    obtain ⟨hopened, hended⟩ := count_step hstep
    obtain ⟨hopened', hended'⟩ := ih h
    rw [after_cons, List.countP_cons, List.countP_cons]
    simp only [decide_eq_true_eq]
    omega

end Life

/-- Every close that fails is followed at once by the one report of it, and nothing else is reported
as a close that failed. -/
inductive Reported (host : Host) : List Event → Prop where
  | nil : Reported host []
  | quiet {e : Event} {es : List Event} :
    (∀ file k, e = .closed file k → (host.closing file).fault? = none) → ¬ e.IsUnloadReport →
    Reported host es → Reported host (e :: es)
  | failing {file : String} {k : Serial} {fault : CloseFault} {receiver : Option String}
    {path : String} {es : List Event} :
    (host.closing file).fault? = some fault → Reported host es →
    Reported host
      (.closed file k :: .message receiver .warning (SharedLibrary.unloadText path fault) :: es)

theorem Reported.append {host : Host} {es es' : List Event} (h : Reported host es)
    (h' : Reported host es') : Reported host (es ++ es') := by
  induction h with
  | nil => exact h'
  | quiet hclose hreport _ ih => exact .quiet hclose hreport ih
  | failing hfault _ ih => exact .failing hfault ih

/-- What happens between two worlds, seen by `k`: objects held it `a` times before and hold it `b`
times after, whatever other objects hold it besides. -/
structure Conduct (host : Host) (k : Serial) (a b : Nat) (w w' : World) (es : List Event) :
    Prop where
  history : w'.history = es.reverse ++ w.history
  numbers : w.nextNumber ≤ w'.nextNumber
  opened : ∀ e ∈ es, e.opens? = some k → w.nextNumber ≤ k.number ∧ k.number < w'.nextNumber
  reported : Reported host es
  life : ∀ (life : Life) (others : Nat), life ≠ .violated → life.holders = a + others →
    (∀ e ∈ es, e.opens? = some k → life = .unopened) →
    life.after k es ≠ .violated ∧ (life.after k es).holders = b + others

namespace Conduct

variable {host : Host} {k : Serial} {a b c : Nat} {w w' w'' : World} {es es' : List Event}

theorem refl (host : Host) (k : Serial) (a : Nat) (w : World) : Conduct host k a a w w [] where
  history := rfl
  numbers := Nat.le_refl _
  opened := by simp
  reported := .nil
  life := by
    intro life others hlife hholders _
    exact ⟨hlife, hholders⟩

theorem trans (h : Conduct host k a b w w' es) (h' : Conduct host k b c w' w'' es') :
    Conduct host k a c w w'' (es ++ es') where
  history := by simp [h'.history, h.history]
  numbers := Nat.le_trans h.numbers h'.numbers
  opened := by
    intro e he hopen
    have hn := h.numbers
    have hn' := h'.numbers
    rcases List.mem_append.mp he with he | he
    · have := h.opened e he hopen
      omega
    · have := h'.opened e he hopen
      omega
  reported := h.reported.append h'.reported
  life := by
    intro life others hlife hholders hfresh
    obtain ⟨hlife₁, hholders₁⟩ := h.life life others hlife hholders
      fun e he => hfresh e (List.mem_append_left _ he)
    rw [Life.after_append]
    refine h'.life _ others hlife₁ hholders₁ fun e he hopen => ?_
    -- A number is given once, so `k` cannot have been opened before.
    have hunopened := hfresh e (List.mem_append_right _ he) hopen
    have hbound := h'.opened e he hopen
    have hnever : ∀ e ∈ es, e.opens? ≠ some k := by
      intro e₁ he₁ hopen₁
      have := h.opened e₁ he₁ hopen₁
      omega
    subst hunopened
    rcases Life.after_unopened hnever with hstill | hviolated
    · exact hstill
    · exact (hlife₁ hviolated).elim

/-- Two worlds determine what happened between them. -/
theorem events_eq {j : Serial} {a' b' : Nat} (h : Conduct host k a b w w' es)
    (h' : Conduct host j a' b' w w' es') : es = es' := by
  have hhistory := h.history.symm.trans h'.history
  exact List.reverse_inj.mp (List.append_cancel_right hhistory)

/-- Objects that take no part hold what they held. -/
theorem frame (h : Conduct host k a b w w' es) (others : Nat) :
    Conduct host k (a + others) (b + others) w w' es where
  history := h.history
  numbers := h.numbers
  opened := h.opened
  reported := h.reported
  life := by
    intro life more hlife hholders hfresh
    have := h.life life (others + more) hlife (by omega) hfresh
    rwa [← Nat.add_assoc] at this

/-- What was held once at most is still held once at most, and only once it has a number. -/
theorem holders_le_one (h : Conduct host k a b w w' es) (ha : a ≤ 1)
    (hfresh : w.nextNumber ≤ k.number → a = 0) :
    b ≤ 1 ∧ (w'.nextNumber ≤ k.number → b = 0) := by
  have hnumbers := h.numbers
  have hcases : a = 0 ∨ a = 1 := by omega
  rcases hcases with rfl | rfl
  · have hlife := h.life .unopened 0 (by simp) rfl fun _ _ _ => rfl
    have hle : (Life.unopened.after k es).holders ≤ 1 := Life.holders_le_one
    refine ⟨by omega, fun hnumber => ?_⟩
    have hnever : ∀ e ∈ es, e.opens? ≠ some k := by
      intro e he hopen
      have := h.opened e he hopen
      omega
    rcases Life.after_unopened hnever with hstill | hviolated
    · rw [hstill] at hlife
      have := hlife.2
      simp only [Life.holders] at this
      omega
    · exact (hlife.1 hviolated).elim
  · have hknown : k.number < w.nextNumber := by omega
    have hlife := h.life .live 0 (by simp) rfl fun e he hopen => by
      have := h.opened e he hopen
      omega
    have hle : (Life.live.after k es).holders ≤ 1 := Life.holders_le_one
    exact ⟨by omega, fun hnumber => by omega⟩

end Conduct

/-- Nothing is ended on the way from one world to another. -/
def Acting (host : Host) (k : Serial) (a b : Nat) (w w' : World) : Prop :=
  ∃ es, Conduct host k a b w w' es ∧ ∀ e ∈ es, e.isEnd = false

/-- Nothing native is used on the way from one world to another. -/
def Closing (host : Host) (k : Serial) (a b : Nat) (w w' : World) : Prop :=
  ∃ es, Conduct host k a b w w' es ∧ ∀ e ∈ es, e.isUse = false

/-- Whatever is ended on the way is ended after the last use of anything native. -/
def Phased (host : Host) (k : Serial) (a b : Nat) (w w' : World) : Prop :=
  ∃ c v, Acting host k a c w v ∧ Closing host k c b v w'

variable {host : Host} {k : Serial} {a b c : Nat} {w w' w'' : World}

theorem Acting.refl (host : Host) (k : Serial) (a : Nat) (w : World) : Acting host k a a w w :=
  ⟨[], .refl host k a w, by simp⟩

theorem Closing.refl (host : Host) (k : Serial) (a : Nat) (w : World) : Closing host k a a w w :=
  ⟨[], .refl host k a w, by simp⟩

theorem Acting.trans (h : Acting host k a b w w') (h' : Acting host k b c w' w'') :
    Acting host k a c w w'' := by
  obtain ⟨es, hconduct, hends⟩ := h
  obtain ⟨es', hconduct', hends'⟩ := h'
  refine ⟨es ++ es', hconduct.trans hconduct', fun e he => ?_⟩
  rcases List.mem_append.mp he with he | he
  · exact hends e he
  · exact hends' e he

theorem Closing.trans (h : Closing host k a b w w') (h' : Closing host k b c w' w'') :
    Closing host k a c w w'' := by
  obtain ⟨es, hconduct, huses⟩ := h
  obtain ⟨es', hconduct', huses'⟩ := h'
  refine ⟨es ++ es', hconduct.trans hconduct', fun e he => ?_⟩
  rcases List.mem_append.mp he with he | he
  · exact huses e he
  · exact huses' e he

theorem Acting.frame (h : Acting host k a b w w') (others : Nat) :
    Acting host k (a + others) (b + others) w w' := by
  obtain ⟨es, hconduct, hends⟩ := h
  exact ⟨es, hconduct.frame others, hends⟩

theorem Closing.frame (h : Closing host k a b w w') (others : Nat) :
    Closing host k (a + others) (b + others) w w' := by
  obtain ⟨es, hconduct, huses⟩ := h
  exact ⟨es, hconduct.frame others, huses⟩

theorem Acting.phased (h : Acting host k a b w w') : Phased host k a b w w' :=
  ⟨b, w', h, .refl host k b w'⟩

theorem Closing.phased (h : Closing host k a b w w') : Phased host k a b w w' :=
  ⟨a, w, .refl host k a w, h⟩

theorem Acting.then (h : Acting host k a b w w') (h' : Phased host k b c w' w'') :
    Phased host k a c w w'' := by
  obtain ⟨d, v, hacting, hclosing⟩ := h'
  exact ⟨d, v, h.trans hacting, hclosing⟩

theorem Phased.frame (h : Phased host k a b w w') (others : Nat) :
    Phased host k (a + others) (b + others) w w' := by
  obtain ⟨d, v, hacting, hclosing⟩ := h
  exact ⟨d + others, v, hacting.frame others, hclosing.frame others⟩

theorem Phased.conduct (h : Phased host k a b w w') : ∃ es, Conduct host k a b w w' es := by
  obtain ⟨d, v, ⟨es, hconduct, -⟩, ⟨es', hconduct', -⟩⟩ := h
  exact ⟨es ++ es', hconduct.trans hconduct'⟩

/-- A world whose history goes on from that of another. -/
def Continues (w w' : World) : Prop := ∃ es : List Event, w'.history = es.reverse ++ w.history

/-- On the way from one world to the other the loader is asked to open a file. -/
def Tries (w w' : World) : Prop :=
  ∃ es : List Event, w'.history = es.reverse ++ w.history ∧ ∃ file k, .opened file k ∈ es

theorem Tries.continues (h : Tries w w') (h' : Continues w' w'') :
    Tries w w'' := by
  obtain ⟨es, hhistory, file, k, hopened⟩ := h
  obtain ⟨es', hhistory'⟩ := h'
  exact ⟨es ++ es', by simp [hhistory, hhistory'], file, k, List.mem_append_left _ hopened⟩

theorem Continues.tries (h : Continues w w') (h' : Tries w' w'') :
    Tries w w'' := by
  obtain ⟨es, hhistory⟩ := h
  obtain ⟨es', hhistory', file, k, hopened⟩ := h'
  exact ⟨es ++ es', by simp [hhistory, hhistory'], file, k, List.mem_append_right _ hopened⟩

theorem Acting.continues (h : Acting host k a b w w') :
    Continues w w' := by
  obtain ⟨es, hconduct, -⟩ := h
  exact ⟨es, hconduct.history⟩

theorem Phased.continues (h : Phased host k a b w w') :
    Continues w w' := by
  obtain ⟨es, hconduct⟩ := h.conduct
  exact ⟨es, hconduct.history⟩

end NativeBinding
