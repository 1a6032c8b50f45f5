import NativeBinding.Proofs.ProviderCommands

/-! Commands about owners, sessions and handles are fair to what the objects of a scenario hold. -/
namespace NativeBinding.Scenario

open OpenCL Bench

variable {host : Host} {b : Bench}

/-- The owner under a name is there. -/
theorem owner?_owned {name : String} {o : OwnerId} (h : b.owner? name = some o) :
    o = Desk.globalOwner ∨ o ∈ b.owners.values := by
  unfold Bench.owner? at h
  split at h
  · cases h
    exact .inl rfl
  · exact .inr (Shelf.mem_values_of_get? h)

theorem fair_handles {handles : Shelf SessionId} (hb : b.Healthy)
    (hhandled : ∀ s ∈ handles.values, (b.desk.sessions s).isSome) :
    Fair host none false b { b with handles := handles } := by
  refine fair_desk (d := b.desk) hb hb.coherent b.desk.keeps_refl hb.named
    hb.owned hhandled hb.sessions fun k _ => ?_
  rw [givenHolds_none, Nat.zero_add]
  exact (Acting.refl host k _ _).phased

/-- An owner lets go of its session, and perhaps is dropped itself. -/
theorem fair_vacated {owners : Shelf OwnerId} (o : OwnerId) (hb : b.Healthy)
    (hnamed : Named owners b.desk.nextOwner)
    (howners : ∀ o' ∈ b.owners.values, o' ≠ o → o' ∈ owners.values) :
    Fair host none false b { putDesk (o.destroy.run host b.desk).2 b with owners := owners } := by
  rw [OwnerId.run_destroy]
  have hnext : (b.desk.vacated o).nextOwner = b.desk.nextOwner := b.desk.nextOwner_vacated o
  refine fair_desk hb ((hb.coherent.vacated o).putWorld _) (b.desk.keeps_vacated o)
    (hnext.symm ▸ hnamed) ?_ ?_ ?_ ?_
  · intro o' s hs
    have hs' : (b.desk.vacated o).held o' = some s := hs
    rw [Desk.held_vacated] at hs'
    split at hs'
    · cases hs'
    · rcases hb.owned o' s hs' with hglobal | howner
      · exact .inl hglobal
      · exact .inr (howners o' howner ‹o' ≠ o›)
  · exact fun s hs => (b.desk.keeps_vacated o).isSome (hb.handled s hs)
  · exact fun s provider hs => hb.sessions s provider (Desk.provider?_vacated hs)
  · intro k hk
    have hleave := ((b.desk.leaving_closing hk o host).phased).frame ((b.desk.vacated o).holders k)
    rw [Nat.zero_add, Desk.holders_vacated hb.coherent] at hleave
    rwa [givenHolds_none, Nat.zero_add]

/-- Keeping a handle changes nothing but the handles. -/
theorem run_keepHandle (as : Option String) (s : SessionId) (host : Host) (b : Bench) :
    ∃ handles : Shelf SessionId,
      (keepHandle as s).run host b = ((), { b with handles := handles }) ∧
        ∀ t ∈ handles.values, t = s ∨ t ∈ b.handles.values := by
  cases as with
  | none => exact ⟨b.handles, rfl, fun t => .inr⟩
  | some name =>
    refine ⟨b.handles.put name s, rfl, fun t ht => ?_⟩
    rcases Shelf.mem_values_put.mp ht with rfl | ht
    · exact .inl rfl
    · exact .inr (Shelf.mem_values_of_erase ht)

/-- Whether a creation succeeds or fails, it is fair to what is held. -/
theorem answerCreation_fair (as : Option String) (call : Creation) {o : OwnerId} (hb : b.Healthy)
    (howner : o = Desk.globalOwner ∨ o ∈ b.owners.values)
    (hsound : ∀ p, call.provider? = some p → p.Sound) :
    Fair host call.provider? false b
      ((answerCreation as (call.attempt o)).run host b).2 := by
  have hcreates := call.attempt_creates host b.desk o
  rcases hrun : (call.attempt o).run host b.desk with ⟨r, d⟩
  rw [hrun] at hcreates
  have hkeeps : b.desk.Keeps d := fun s x hx => .inl (hcreates.sessions hb.coherent hx)
  have hfair : ∀ handles : Shelf SessionId,
      (∀ s ∈ handles.values, r = .ok s ∨ s ∈ b.handles.values) →
      Fair host call.provider? false b { putDesk d b with handles := handles } := by
    intro handles hhandles
    refine fair_desk hb (hcreates.coherent hb.coherent) hkeeps (hcreates.nextOwner ▸ hb.named) ?_ ?_
      (hcreates.roots hb.sessions hsound) fun k hk => hcreates.phased hk
    · intro o' s hs
      by_cases ho : o' = o
      · exact ho ▸ howner
      · rw [hcreates.held_other ho] at hs
        exact hb.owned o' s hs
    · intro s hs
      rcases hhandles s hs with rfl | hold
      · obtain ⟨x, hx, -⟩ := (hcreates.coherent hb.coherent).held_active o s hcreates.held_ok
        exact Option.isSome_iff_exists.mpr ⟨x, hx⟩
      · exact hkeeps.isSome (hb.handled s hold)
  rw [answerCreation, Action.run_bind, run_liftDesk, Attempt.run_outcome, hrun]
  cases r with
  | error failure => exact hfair b.handles fun s => .inr
  | ok s =>
    obtain ⟨handles, hkeep, hhandles⟩ := run_keepHandle as s host (putDesk d b)
    simp only [answerSession, Action.run_bind, Action.run_get, Action.run_pure, hkeep]
    refine hfair handles fun t ht => ?_
    rcases hhandles t ht with rfl | hold
    · exact .inl rfl
    · exact .inr hold

theorem withOwner_fair {name : String} {x : OwnerId → Action Bench Answer} (hb : b.Healthy)
    (h : ∀ o, o = Desk.globalOwner ∨ o ∈ b.owners.values →
      Fair host none false b ((x o).run host b).2) :
    Fair host none false b ((withOwner name x).run host b).2 :=
  withObject_fair hb fun o ho => h o (owner?_owned ho)

/-- Asking a session is fair, active or not. -/
theorem withSession_fair {α : Type} {name : String} {x : SessionId → Action Desk α}
    {answer : α → Answer} (hb : b.Healthy)
    (h : ∀ s : SessionId, s.Consults b.desk ((x s).run host b.desk).2) :
    Fair host none false b ((withSession name fun s => do return answer (← x s)).run host b).2 :=
  withObject_fair hb fun s _ => fair_of_consults (h s) hb host

theorem SessionCommand.newOwner_fair (name : String) (hb : b.Healthy) :
    Fair host none false b ((newOwner name).perform.run host b).2 := by
  let d : Desk := { b.desk with nextOwner := b.desk.nextOwner + 1 }
  let b₁ := putDesk d b
  let owners := b.owners.put name b.desk.nextOwner
  have hearlier : ∀ o ∈ (b.owners.erase name).values,
      Desk.globalOwner < o ∧ o < b.desk.nextOwner := fun o ho =>
    hb.named.given o (Shelf.mem_values_of_erase ho)
  have hnamed : Named owners d.nextOwner := by
    constructor
    case positive => exact Nat.lt_succ_of_lt hb.named.positive
    case given =>
      intro o ho
      rcases Shelf.mem_values_put.mp ho with rfl | ho
      · exact ⟨hb.named.positive, Nat.lt_succ_self _⟩
      · exact ⟨(hearlier o ho).1, Nat.lt_succ_of_lt (hearlier o ho).2⟩
    case distinct =>
      rw [(b.owners.values_put_perm name _).nodup_iff, List.nodup_cons]
      refine ⟨fun hmem => Nat.lt_irrefl _ (hearlier _ hmem).2, ?_⟩
      exact hb.named.distinct.sublist (b.owners.values_erase_sublist name)
  have hb₁ : b₁.Healthy := { hb with
    coherent := { hb.coherent with }
    named := {
      positive := Nat.lt_succ_of_lt hb.named.positive
      given := fun o ho => ⟨(hb.named.given o ho).1, Nat.lt_succ_of_lt (hb.named.given o ho).2⟩
      distinct := hb.named.distinct } }
  suffices hfair : Fair host none false b₁ ((newOwner name).perform.run host b).2 from
    { hfair with }
  cases hold : b.owners.get? name with
  | none =>
    have hrun : ((newOwner name).perform.run host b).2 = { b₁ with owners := owners } := by
      simp only [perform, OwnerId.new, Action.run_bind, Action.run_get, Action.run_modify,
        run_liftDesk, Action.run_modifyGet, hold, putDesk]
      rfl
    rw [hrun]
    refine fair_desk (d := d) hb₁ hb₁.coherent d.keeps_refl hnamed ?_
      hb₁.handled hb₁.sessions fun k _ => ?_
    · intro o s hs
      rcases hb.owned o s hs with hglobal | howner
      · exact .inl hglobal
      · refine .inr (Shelf.mem_values_put.mpr (.inr (Shelf.mem_values_erase howner ?_)))
        simp [hold]
    · rw [givenHolds_none, Nat.zero_add]
      exact (Acting.refl host k _ _).phased
  | some old =>
    have hrun : ((newOwner name).perform.run host b).2 =
        { putDesk (old.destroy.run host d).2 b₁ with owners := owners } := by
      simp only [perform, OwnerId.new, Action.run_bind, Action.run_get, Action.run_modify,
        run_liftDesk, Action.run_modifyGet, hold, putDesk]
      rfl
    rw [hrun]
    refine fair_vacated old hb₁ hnamed fun o ho hne => ?_
    refine Shelf.mem_values_put.mpr (.inr (Shelf.mem_values_erase ho ?_))
    rw [hold]
    exact fun heq => hne (Option.some.inj heq).symm

theorem SessionCommand.dropOwner_fair (name : String) (hb : b.Healthy) :
    Fair host none false b ((dropOwner name).perform.run host b).2 := by
  refine withObject_fair hb fun o ho => ?_
  have hget : b.owners.get? name = some o := by
    split at ho
    · cases ho
    · exact ho
  have hnamed : Named (b.owners.erase name) b.desk.nextOwner := by
    constructor
    case positive => exact hb.named.positive
    case given => exact fun o ho => hb.named.given o (Shelf.mem_values_of_erase ho)
    case distinct => exact hb.named.distinct.sublist (b.owners.values_erase_sublist name)
  refine fair_vacated o hb hnamed fun o' ho' hne => Shelf.mem_values_erase ho' ?_
  rw [hget]
  exact fun heq => hne (Option.some.inj heq).symm

/-- A handle may be kept to the session that an owner holds. -/
theorem SessionCommand.current_fair (owner : String) (as : Option String) (hb : b.Healthy) :
    Fair host none false b ((current owner as).perform.run host b).2 := by
  refine withOwner_fair hb fun o _ => ?_
  cases ho : b.desk.held o with
  | none => simpa [OwnerId.session?, ho] using hb.fair_refl host
  | some s =>
    obtain ⟨handles, hkeep, hhandles⟩ := run_keepHandle as s host b
    simp only [OwnerId.session?, answerSession, Action.run_bind, Action.run_get, Action.run_pure,
      run_liftDesk, putDesk_desk, ho, hkeep]
    refine fair_handles hb fun t ht => ?_
    rcases hhandles t ht with rfl | hold
    · obtain ⟨x, hx, -⟩ := hb.coherent.held_active o t ho
      exact Option.isSome_iff_exists.mpr ⟨x, hx⟩
    · exact hb.handled t hold

/-- The provider that a command hands over for good, if it gets so far. -/
def SessionCommand.handed (host : Host) (b : Bench) : SessionCommand → Option Provider
  | createFromProvider owner source _ =>
    if (b.owner? owner).isSome then (source.take.run host b).1.map Held.provider else none
  | _ => none

theorem SessionCommand.perform_settles (c : SessionCommand) (hb : b.Healthy) :
    Settles host (c.handed host b) b (c.perform.run host b).2 := by
  cases c with
  | newOwner name => exact (newOwner_fair name hb).settles
  | dropOwner name => exact (dropOwner_fair name hb).settles
  | create owner config as =>
    exact (withOwner_fair hb fun o ho =>
      answerCreation_fair as (.create config) hb ho nofun).settles
  | createFromLibrary owner name as =>
    exact (withOwner_fair hb fun o ho =>
      answerCreation_fair as (.fromLibrary name) hb ho nofun).settles
  | createFromProvider owner source as =>
    rw [handed]
    cases ho : b.owner? owner with
    | none => simpa [perform, withOwner, ho, withObject] using (hb.fair_refl host).settles
    | some o =>
      have hrun : ((createFromProvider owner source as).perform.run host b).2 =
          ((do
            withObject (← source.take) fun held =>
              answerCreation as (o.createFromProvider held.provider)).run host b).2 := by
        simp only [perform, withOwner, Action.run_bind, Action.run_get, ho, withObject]
      rw [hrun]
      refine withSource_settles false hb fun held b₁ htakes hb₁ hsound => ?_
      have howner : o = Desk.globalOwner ∨ o ∈ b₁.owners.values := by
        rw [htakes.owners]
        exact owner?_owned ho
      refine answerCreation_fair as (.fromProvider held.provider) hb₁ howner ?_
      rintro p ⟨⟩
      exact hsound
  | getOrCreate owner config as =>
    exact (withOwner_fair hb fun o ho =>
      answerCreation_fair as (.getOrCreate config) hb ho nofun).settles
  | destroy owner =>
    exact (withOwner_fair hb fun o _ => fair_vacated o hb hb.named fun _ ho _ => ho).settles
  | isCreated owner => exact (withOwner_fair hb fun o _ => hb.fair_refl host).settles
  | current owner as => exact (current_fair owner as hb).settles
  | address session name =>
    exact (withSession_fair hb fun s => s.address_consults name host b.desk).settles
  | addressFor session platform name =>
    exact (withSession_fair hb fun s => s.addressFor_consults platform name host b.desk).settles
  | library session =>
    refine (withObject_fair hb fun s _ => ?_).settles
    cases hs : b.desk.sessions s with
    | none => simpa [hs, withObject] using hb.fair_refl host
    | some x => simpa [hs, withObject] using hb.fair_refl host
  | platforms session =>
    exact (withSession_fair hb fun s => s.platforms_consults host b.desk).settles
  | platformText session platform parameter =>
    exact (withSession_fair hb fun s =>
      s.platformText_consults platform parameter host b.desk).settles
  | platformCapabilities session platform =>
    exact (withSession_fair hb fun s =>
      s.platformCapabilities_consults platform host b.desk).settles
  | state session =>
    refine (withObject_fair hb fun s _ => ?_).settles
    cases hs : b.desk.sessions s with
    | none => simpa [hs, withObject] using hb.fair_refl host
    | some x => simpa [hs, withObject] using hb.fair_refl host
  | dropHandle session =>
    exact (withObject_fair hb fun s _ => fair_handles hb fun t ht =>
      hb.handled t (Shelf.mem_values_of_erase ht)).settles

end NativeBinding.Scenario
