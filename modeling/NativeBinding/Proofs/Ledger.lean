import NativeBinding.Proofs.Commands

/-!
What the objects of a bench hold, and what the history says of it. Nothing is held twice, and what
was opened or handed over is live as long as it is held, and has ended as soon as it is not.
-/
namespace NativeBinding.Scenario

open OpenCL Bench

variable {host : Host} {k : Serial} {b b' b₁ : Bench} {hand : Option Provider} {kept : Bool}

namespace Bench

/-- Nothing is held twice, and nothing is held that has not been given a number. -/
structure Linear (hand : Option Provider) (b : Bench) : Prop where
  single : ∀ k : Serial, k.IsRecorded → givenHolds k hand + b.holders k ≤ 1
  fresh : ∀ k : Serial, k.IsRecorded → b.desk.world.nextNumber ≤ k.number →
    givenHolds k hand + b.holders k = 0

theorem Takes.linear (h : Takes b hand b₁) (hb : b.Linear none) : b₁.Linear hand := by
  constructor
  case single =>
    intro k hk
    have hsingle := hb.single k hk
    have hfresh := hb.fresh k hk
    rw [givenHolds_none] at hsingle hfresh
    rcases h.holders k with hsame | ⟨hnew, -, hmore⟩
    · omega
    · have hzero := hfresh (Nat.le_of_eq hnew)
      omega
  case fresh =>
    intro k hk hnumber
    have hfresh := hb.fresh k hk
    have hnumbers := h.numbers
    rw [givenHolds_none] at hfresh
    rcases h.holders k with hsame | ⟨hnew, hnext, -⟩
    · have hzero := hfresh (Nat.le_trans hnumbers hnumber)
      omega
    · omega

/-- A fair passage is a row of events, in which nothing is used any more once something is ended. -/
theorem Fair.passage (h : Fair host hand kept b b') : ∃ acting closing : List Event,
    (∀ e ∈ acting, e.isEnd = false) ∧ (∀ e ∈ closing, e.isUse = false) ∧
    ∀ k : Serial, k.IsRecorded → ¬ b.Bare k →
      Conduct host k (givenHolds k hand + b.holders k) (b'.holders k) b.desk.world b'.desk.world
        (acting ++ closing) := by
  have hphased : ∀ k : Serial, k.IsRecorded → ¬ b.Bare k →
      Phased host k (givenHolds k hand + b.holders k) (b'.holders k) b.desk.world
        b'.desk.world := by
    intro k hk hbare
    rcases h.accounts k hk with hphased | ⟨hkept, -⟩
    · exact hphased
    · exact (hbare hkept).elim
  obtain ⟨n, v, ⟨acting, hacting, hends⟩, ⟨closing, hclosing, huses⟩⟩ :=
    hphased (.library 0) (Serial.isRecorded_library 0) (b.not_bare_library 0)
  have hconduct := hacting.trans hclosing
  refine ⟨acting, closing, hends, huses, fun k hk hbare => ?_⟩
  obtain ⟨es, hes⟩ := (hphased k hk hbare).conduct
  rwa [hconduct.events_eq hes]

theorem Fair.numbers (h : Fair host hand kept b b') :
    b.desk.world.nextNumber ≤ b'.desk.world.nextNumber := by
  obtain ⟨acting, closing, -, -, hconduct⟩ := h.passage
  exact (hconduct (.library 0) (Serial.isRecorded_library 0) (b.not_bare_library 0)).numbers

theorem Fair.linear (h : Fair host hand kept b b') (hb : b.Linear hand) : b'.Linear none := by
  have hnumbers := h.numbers
  have hheld : ∀ k : Serial, k.IsRecorded → b'.holders k ≤ 1 ∧
      (b'.desk.world.nextNumber ≤ k.number → b'.holders k = 0) := by
    intro k hk
    have hsingle := hb.single k hk
    have hfresh := hb.fresh k hk
    rcases h.accounts k hk with hphased | ⟨-, hle⟩
    · obtain ⟨es, hconduct⟩ := hphased.conduct
      exact hconduct.holders_le_one hsingle hfresh
    · refine ⟨by omega, fun hnumber => ?_⟩
      have hzero := hfresh (Nat.le_trans hnumbers hnumber)
      omega
  constructor
  case single =>
    intro k hk
    rw [givenHolds_none, Nat.zero_add]
    exact (hheld k hk).1
  case fresh =>
    intro k hk hnumber
    rw [givenHolds_none, Nat.zero_add]
    exact (hheld k hk).2 hnumber

/-- The history since `k` had this life agrees with what is held now. -/
structure Ledger (k : Serial) (life : Life) (es : List Event) (hand : Option Provider) (b : Bench) :
    Prop where
  inTurn : life.after k es ≠ .violated
  held : (life.after k es).holders = givenHolds k hand + b.holders k
  fresh : b.desk.world.nextNumber ≤ k.number → life.after k es = .unopened

/-- The application neither keeps `k` as a provider of its own nor can be given it as a new one. -/
structure Enclosed (k : Serial) (b : Bench) : Prop where
  not_bare : ¬ b.Bare k
  known : (∃ n, k = .library n) ∨ k.number < b.desk.world.nextNumber

theorem enclosed_library (b : Bench) (n : Nat) : b.Enclosed (.library n) :=
  ⟨b.not_bare_library n, .inl ⟨n, rfl⟩⟩

/-- What the application keeps itself is all that it can take in hand as its own. -/
theorem Takes.of_enclosed (h : Takes b hand b₁) (hk : b.Enclosed k) :
    givenHolds k hand + b₁.holders k = b.holders k ∧
      ∀ p, hand = some (.supplied p) → p.serial ≠ k := by
  cases h with
  | nothing => exact ⟨Nat.zero_add _, nofun⟩
  | @named name held hname =>
    constructor
    · rcases (Takes.named hname).holders k with hsame | ⟨hnew, hnext, -⟩
      · exact hsame
      · have hnumber : b.desk.world.nextNumber = k.number + 1 := hnext
        omega
    · intro p hp hserial
      exact hk.not_bare ⟨held, Shelf.mem_values_of_get? hname, p, Option.some.inj hp, hserial⟩
  | supplied library isFull =>
    let p : SuppliedProvider := { number := b.desk.world.nextNumber, library, isFull }
    have hother : p.serial ≠ k := by
      intro hserial
      rcases hk.known with ⟨n, hn⟩ | hknown
      · cases isFull <;> simp [p, SuppliedProvider.serial, hn] at hserial
      · rw [← hserial] at hknown
        cases isFull <;> simp [p, SuppliedProvider.serial, Serial.number] at hknown
    constructor
    · have hzero : givenHolds k (some (.supplied p)) = 0 := by
        simp [Provider.holds, Provider.root, hother]
      rw [hzero, Nat.zero_add]
      rfl
    · rintro q ⟨⟩
      exact hother

variable {life : Life} {es new : List Event}

theorem Takes.ledger (h : Takes b hand b₁) (hk : b.Enclosed k) (hledger : b.Ledger k life es none) :
    b₁.Ledger k life es hand where
  inTurn := hledger.inTurn
  held := by
    have hheld := hledger.held
    have hsame := (h.of_enclosed hk).1
    simp only [givenHolds_none, Nat.zero_add] at hheld
    omega
  fresh := fun hnumber => hledger.fresh (Nat.le_trans h.numbers hnumber)

theorem Fair.ledger (h : Fair host hand kept b b') (hk : k.IsRecorded) (hbare : ¬ b.Bare k)
    (hledger : b.Ledger k life es hand)
    (hnew : b'.desk.world.history = new.reverse ++ b.desk.world.history) :
    b'.Ledger k life (es ++ new) none := by
  have hnumbers := h.numbers
  obtain ⟨acting, closing, -, -, hconduct⟩ := h.passage
  replace hconduct := hconduct k hk hbare
  have hsame : acting ++ closing = new := by
    have hhistory := hconduct.history.symm.trans hnew
    exact List.reverse_inj.mp (List.append_cancel_right hhistory)
  rw [hsame] at hconduct
  have hopened : ∀ e ∈ new, e.opens? = some k → life.after k es = .unopened := fun e he hopen =>
    hledger.fresh (hconduct.opened e he hopen).1
  obtain ⟨hinTurn, hheld⟩ := hconduct.life _ 0 hledger.inTurn hledger.held hopened
  rw [← Life.after_append] at hinTurn hheld
  constructor
  case inTurn => exact hinTurn
  case held =>
    rw [hheld]
    exact Nat.add_comm _ _
  case fresh =>
    intro hnumber
    have hunopened := hledger.fresh (Nat.le_trans hnumbers hnumber)
    have hnever : ∀ e ∈ new, e.opens? ≠ some k := by
      intro e he hopen
      have := hconduct.opened e he hopen
      omega
    rw [Life.after_append, hunopened] at hinTurn ⊢
    rcases Life.after_unopened hnever with hstill | hviolated
    · exact hstill
    · exact (hinTurn hviolated).elim

/-- What is handed over is live from then on. -/
theorem Takes.ledger_handed {p : SuppliedProvider} (h : Takes b (some (.supplied p)) b₁)
    (hb : b.Linear none) (hk : p.serial.IsRecorded) :
    b₁.Ledger p.serial .live [] (some (.supplied p)) ∧ ¬ b₁.Bare p.serial := by
  have hlinear := h.linear hb
  have hgiven : givenHolds p.serial (some (.supplied p)) = 1 := by
    simp [Provider.holds, Provider.root]
  have hsingle := hlinear.single p.serial hk
  have hfresh := hlinear.fresh p.serial hk
  have hnone : b₁.holders p.serial = 0 := by omega
  constructor
  · constructor
    case inTurn => simp
    case held =>
      rw [hgiven, hnone]
      rfl
    case fresh =>
      intro hnumber
      have := hfresh hnumber
      omega
  · intro hbare
    have := holders_pos_of_bare hbare
    omega

namespace Settles

variable {handed : Option Provider}

theorem healthy (h : Settles host handed b b') : b'.Healthy := by
  obtain ⟨hand, b₁, kept, htakes, hfair, -⟩ := h
  exact hfair.healthy

theorem keeps (h : Settles host handed b b') : b.desk.Keeps b'.desk := by
  obtain ⟨hand, b₁, kept, htakes, hfair, -⟩ := h
  exact IsTrans.trans _ _ _ htakes.keeps hfair.keeps

theorem linear (h : Settles host handed b b') (hb : b.Linear none) : b'.Linear none := by
  obtain ⟨hand, b₁, kept, htakes, hfair, -⟩ := h
  exact hfair.linear (htakes.linear hb)

/-- In what happens, nothing is used any more once something is ended, and every close that fails is
reported. -/
theorem passage (h : Settles host handed b b') : ∃ acting closing : List Event,
    b'.desk.world.history = (acting ++ closing).reverse ++ b.desk.world.history ∧
      (∀ e ∈ acting, e.isEnd = false) ∧ (∀ e ∈ closing, e.isUse = false) ∧
      Reported host (acting ++ closing) := by
  obtain ⟨hand, b₁, kept, htakes, hfair, -⟩ := h
  obtain ⟨acting, closing, hends, huses, hconduct⟩ := hfair.passage
  have hlibrary := hconduct (.library 0) (Serial.isRecorded_library 0) (b₁.not_bare_library 0)
  refine ⟨acting, closing, ?_, hends, huses, hlibrary.reported⟩
  rw [← htakes.history]
  exact hlibrary.history

theorem enclosed (h : Settles host handed b b') (hk : b.Enclosed k) : b'.Enclosed k := by
  obtain ⟨hand, b₁, kept, htakes, hfair, -⟩ := h
  constructor
  case not_bare =>
    intro hbare
    rcases hfair.bare k hbare with hbare | ⟨-, p, hp, hserial⟩
    · exact hk.not_bare (htakes.bare hbare)
    · exact (htakes.of_enclosed hk).2 p hp hserial
  case known =>
    have hnumbers := Nat.le_trans htakes.numbers hfair.numbers
    rcases hk.known with hlibrary | hknown
    · exact .inl hlibrary
    · exact .inr (Nat.lt_of_lt_of_le hknown hnumbers)

theorem ledger (h : Settles host handed b b') (hrecorded : k.IsRecorded) (hk : b.Enclosed k)
    (hledger : b.Ledger k life es none)
    (hnew : b'.desk.world.history = new.reverse ++ b.desk.world.history) :
    b'.Ledger k life (es ++ new) none := by
  obtain ⟨hand, b₁, kept, htakes, hfair, -⟩ := h
  have hbare : ¬ b₁.Bare k := fun hbare => hk.not_bare (htakes.bare hbare)
  rw [← htakes.history] at hnew
  exact hfair.ledger hrecorded hbare (htakes.ledger hk hledger) hnew

/-- What is handed over is live from then on, and out of the application's hands. -/
theorem ledger_handed {p : SuppliedProvider} (h : Settles host (some (.supplied p)) b b')
    (hb : b.Linear none) (hk : p.serial.IsRecorded)
    (hnew : b'.desk.world.history = new.reverse ++ b.desk.world.history) :
    b'.Ledger p.serial .live new none ∧ b'.Enclosed p.serial := by
  obtain ⟨hand, b₁, kept, htakes, hfair, hhanded⟩ := h
  obtain ⟨rfl, rfl⟩ := hhanded rfl
  obtain ⟨hledger, hbare⟩ := htakes.ledger_handed hb hk
  rw [← htakes.history] at hnew
  have hafter := hfair.ledger hk hbare hledger hnew
  refine ⟨hafter, ?_, .inr ?_⟩
  · intro hbare'
    rcases hfair.bare _ hbare' with hold | ⟨hkept, -⟩
    · exact hbare hold
    · cases hkept
  · by_contra hnumber
    have hunopened := hafter.fresh (Nat.le_of_not_lt hnumber)
    exact Life.after_ne_unopened new (by simp) hunopened

end Settles

end Bench

end NativeBinding.Scenario
