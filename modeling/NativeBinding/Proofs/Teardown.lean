import NativeBinding.Proofs.Runs

/-!
The teardown at the end of a run. Whatever the objects of a bench still hold is ended by it.
-/
namespace NativeBinding.Scenario

open OpenCL Bench

variable {host : Host} {k : Serial} {b : Bench} {life : Life} {es : List Event}

theorem run_forM_world {α : Type} (f : α → Action World Unit) (xs : List α) (host : Host)
    (b : Bench) : ((xs.forM fun a => (f a : Action Bench Unit)).run host b).2 =
      b.putWorld ((xs.forM f).run host b.desk.world).2 := by
  induction xs generalizing b with
  | nil => rfl
  | cons a xs ih => exact ih (b.putWorld ((f a).run host b.desk.world).2)

theorem run_forM_desk {α : Type} (f : α → Action Desk Unit) (xs : List α) (host : Host)
    (b : Bench) : ((xs.forM fun a => (f a : Action Bench Unit)).run host b).2 =
      putDesk ((xs.forM f).run host b.desk).2 b := by
  induction xs generalizing b with
  | nil => rfl
  | cons a xs ih => exact ih (putDesk ((f a).run host b.desk).2 b)

/-- Dropping one object after the other ends what they all hold. -/
theorem conduct_forM {α : Type} {f : α → Action World Unit} {g : α → Nat} {xs : List α}
    (h : ∀ a ∈ xs, ∀ w, Phased host k (g a) 0 w ((f a).run host w).2) (w : World) :
    ∃ es, Conduct host k (total g xs) 0 w ((xs.forM f).run host w).2 es := by
  induction xs generalizing w with
  | nil => exact ⟨[], .refl host k 0 w⟩
  | cons a xs ih =>
    obtain ⟨es, hfirst⟩ := (h a (by simp) w).conduct
    obtain ⟨es', hrest⟩ := ih (fun a ha => h a (List.mem_cons_of_mem _ ha)) ((f a).run host w).2
    have hframe := hfirst.frame (total g xs)
    rw [Nat.zero_add] at hframe
    exact ⟨es ++ es', hframe.trans hrest⟩

/-- Owners that are destroyed one after the other hold nothing any more; others hold what they
did. -/
theorem destroyAll_vacates (host : Host) {d : Desk} (hd : d.Coherent) (xs : List OwnerId) :
    ((xs.forM OwnerId.destroy).run host d).2.Coherent ∧
      ∀ o, ((xs.forM OwnerId.destroy).run host d).2.held o =
        if o ∈ xs then none else d.held o := by
  induction xs generalizing d with
  | nil => exact ⟨hd, fun o => by simp⟩
  | cons o xs ih =>
    have hrun : ((o :: xs).forM OwnerId.destroy).run host d =
        (xs.forM OwnerId.destroy).run host (o.destroy.run host d).2 := rfl
    rw [hrun, OwnerId.run_destroy]
    obtain ⟨hcoherent, hheld⟩ := ih ((hd.vacated o).putWorld ((d.leaving o).run host d.world).2)
    refine ⟨hcoherent, fun o' => ?_⟩
    have hvacated : (Desk.putWorld ((d.leaving o).run host d.world).2 (d.vacated o)).held o' =
        if o' = o then none else d.held o' := d.held_vacated o o'
    rw [hheld o', hvacated]
    by_cases ho : o' = o
    · simp [ho]
    · simp [ho]

/-- What they held is ended. -/
theorem destroyAll_conduct (host : Host) (hk : k.IsRecorded) {d : Desk} (hd : d.Coherent)
    (xs : List OwnerId) :
    ∃ es, Conduct host k (d.holders k) (((xs.forM OwnerId.destroy).run host d).2.holders k)
      d.world ((xs.forM OwnerId.destroy).run host d).2.world es := by
  induction xs generalizing d with
  | nil => exact ⟨[], .refl host k _ _⟩
  | cons o xs ih =>
    have hrun : ((o :: xs).forM OwnerId.destroy).run host d =
        (xs.forM OwnerId.destroy).run host (o.destroy.run host d).2 := rfl
    rw [hrun, OwnerId.run_destroy]
    obtain ⟨es', hrest⟩ := ih ((hd.vacated o).putWorld ((d.leaving o).run host d.world).2)
    obtain ⟨es, hfirst⟩ := (d.leaving_closing hk o host).phased.conduct
    have hframe := hfirst.frame ((d.vacated o).holders k)
    rw [Nat.zero_add, Desk.holders_vacated hd] at hframe
    exact ⟨es ++ es', hframe.trans hrest⟩

/-- What happens outside while the teardown drops all but the owners. -/
def Bench.dropping (b : Bench) : Action World Unit := do
  b.providers.values.forM fun held => held.provider.drop
  b.headsets.values.forM fun r => r.drop
  b.audio.values.forM fun a => a.drop

theorem run_teardown (host : Host) (b : Bench) : (teardown.run host b).2.desk =
    (((b.owners.values ++ [Desk.globalOwner]).forM OwnerId.destroy).run host
      (Desk.putWorld (b.dropping.run host b.desk.world).2 b.desk)).2 := by
  have hlast : (b.owners.values ++ [Desk.globalOwner]).forM OwnerId.destroy = (do
      b.owners.values.forM OwnerId.destroy
      OwnerId.destroy Desk.globalOwner) := by
    simp
  rw [hlast]
  simp only [teardown, dropping, Action.run_bind, Action.run_get, Action.run_set, run_forM_world,
    run_forM_desk, run_liftDesk]
  rfl

/-- After the teardown no owner holds a session. -/
theorem teardown_vacates (hb : b.Healthy) (host : Host) :
    (teardown.run host b).2.desk.Coherent ∧ ∀ o, (teardown.run host b).2.desk.held o = none := by
  rw [run_teardown]
  obtain ⟨hcoherent, hheld⟩ := destroyAll_vacates host
    (hb.coherent.putWorld (b.dropping.run host b.desk.world).2)
    (b.owners.values ++ [Desk.globalOwner])
  refine ⟨hcoherent, fun o => ?_⟩
  rw [hheld]
  split
  · rfl
  · cases ho : b.desk.held o with
    | none => exact ho
    | some s =>
      rename_i hnone
      rcases hb.owned o s ho with hglobal | howner
      · simp [hglobal] at hnone
      · simp [howner] at hnone

theorem dropping_conduct (host : Host) (hk : k.IsRecorded) (hbare : ¬ b.Bare k) :
    ∃ es, Conduct host k (b.holders k) (b.desk.holders k) b.desk.world
      (b.dropping.run host b.desk.world).2 es := by
  let w₁ := ((b.providers.values.forM fun held => held.provider.drop).run host b.desk.world).2
  let w₂ := ((b.headsets.values.forM fun r => r.drop).run host w₁).2
  let w₃ := ((b.audio.values.forM fun a => a.drop).run host w₂).2
  obtain ⟨es₁, h₁⟩ : ∃ es, Conduct host k (b.providers.weigh fun held => held.provider.holds k) 0
      b.desk.world w₁ es := by
    refine conduct_forM (fun held hheld w => (held.provider.drop_closing hk ?_ host w).phased) _
    exact fun p hp hserial => hbare ⟨held, hheld, p, hp, hserial⟩
  obtain ⟨es₂, h₂⟩ : ∃ es, Conduct host k (b.headsets.weigh fun r => r.provider.holds k) 0
      w₁ w₂ es := conduct_forM (fun r _ w => r.drop_phased hk host w) _
  obtain ⟨es₃, h₃⟩ : ∃ es, Conduct host k (b.audio.weigh fun a => a.provider.holds k) 0
      w₂ w₃ es :=
    conduct_forM (fun a _ w => (a.provider.releaseFully_closing hk host w).phased) _
  -- Each kind is dropped while those after it are still held.
  replace h₁ := h₁.frame (b.headsets.weigh (fun r => r.provider.holds k) +
    (b.audio.weigh (fun a => a.provider.holds k) + b.desk.holders k))
  replace h₂ := h₂.frame (b.audio.weigh (fun a => a.provider.holds k) + b.desk.holders k)
  replace h₃ := h₃.frame (b.desk.holders k)
  have hsum : b.holders k = b.providers.weigh (fun held => held.provider.holds k) +
      (b.headsets.weigh (fun r => r.provider.holds k) +
        (b.audio.weigh (fun a => a.provider.holds k) + b.desk.holders k)) := by
    unfold holders
    omega
  rw [Nat.zero_add] at h₁ h₂ h₃
  rw [hsum]
  exact ⟨_, (h₁.trans h₂).trans h₃⟩

/-- The teardown ends all that is held, but what the application keeps as its own. -/
theorem teardown_conduct (hb : b.Healthy) (hk : k.IsRecorded) (hbare : ¬ b.Bare k) :
    ∃ es, Conduct host k (b.holders k) 0 b.desk.world (teardown.run host b).2.desk.world es := by
  obtain ⟨hcoherent, hvacant⟩ := teardown_vacates hb host
  have hnone := hcoherent.holders_of_vacant hvacant k
  obtain ⟨es, hdropping⟩ := dropping_conduct host hk hbare
  obtain ⟨es', hdestroy⟩ := destroyAll_conduct host hk
    (hb.coherent.putWorld (b.dropping.run host b.desk.world).2)
    (b.owners.values ++ [Desk.globalOwner])
  rw [← run_teardown, hnone] at hdestroy
  exact ⟨es ++ es', hdropping.trans hdestroy⟩

/-- After the teardown `k` has ended, if it was ever opened or handed over. -/
theorem teardown_ledger (hb : b.Healthy) (hrecorded : k.IsRecorded) (hk : b.Enclosed k)
    (hledger : b.Ledger k life es none) :
    life.after k (es ++ finalEvents host b) ≠ .violated ∧
      (life.after k (es ++ finalEvents host b)).holders = 0 := by
  obtain ⟨new, hconduct⟩ : ∃ es, Conduct host k (b.holders k) 0 b.desk.world
      (teardown.run host b).2.desk.world es := teardown_conduct hb hrecorded hk.not_bare
  rw [finalEvents, observed_events hconduct.history, Life.after_append]
  have hheld := hledger.held
  simp only [givenHolds_none, Nat.zero_add] at hheld
  exact hconduct.life _ 0 hledger.inTurn hheld fun e he hopen =>
    hledger.fresh (hconduct.opened e he hopen).1

end NativeBinding.Scenario
