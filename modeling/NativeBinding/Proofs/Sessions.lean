import Mathlib.Algebra.BigOperators.Group.Finset.Basic
import NativeBinding.OpenCL.Owner
import NativeBinding.Proofs.Soundness

/-!
Sessions and the owners that hold them. A session is active exactly as long as its owner holds it,
and it is never held again afterwards.
-/
namespace NativeBinding.OpenCL

variable {host : Host} {k : Serial} {d d' : Desk} {o : OwnerId} {s : SessionId}

theorem assign_self {α β : Type} [DecidableEq α] (f : α → β) (a : α) : assign f a (f a) = f := by
  funext x
  by_cases h : x = a
  · simp [assign, h]
  · simp [assign, h]

namespace Desk

/-- How the owners and the sessions of a desk belong together. -/
structure Coherent (d : Desk) : Prop where
  /-- Numbers of sessions are given in order. -/
  fresh : ∀ s, d.nextSession ≤ s → d.sessions s = none
  held_active : ∀ o s, d.held o = some s → ∃ x, d.sessions s = some x ∧ x.owner = o ∧ x.isActive
  active_held : ∀ s x, d.sessions s = some x → x.isActive → d.held x.owner = some s

/-- Sessions stay what they are, but for losing their provider. -/
def Keeps (d d' : Desk) : Prop :=
  ∀ s x, d.sessions s = some x →
    d'.sessions s = some x ∨ d'.sessions s = some { x with provider := none }

instance : IsPreorder Desk Keeps where
  refl _ _ _ h := .inl h
  trans := by
    intro d d' d'' h h' s x hx
    rcases h s x hx with hx' | hx'
    · exact h' s x hx'
    · rcases h' s _ hx' with hx'' | hx''
      · exact .inr hx''
      · exact .inr hx''

theorem keeps_refl (d : Desk) : d.Keeps d := fun _ _ => .inl

theorem Keeps.isSome (h : d.Keeps d') (hs : (d.sessions s).isSome) : (d'.sessions s).isSome := by
  obtain ⟨x, hx⟩ := Option.isSome_iff_exists.mp hs
  rcases h s x hx with hsame | hless
  · simp [hsame]
  · simp [hless]

/-- The desk with one more session, which its owner holds. -/
def added (d : Desk) (x : Session) : Desk := { d with
  sessions := assign d.sessions d.nextSession (some x)
  nextSession := d.nextSession + 1
  held := assign d.held x.owner (some d.nextSession) }

/-- The desk after an owner has let go of its session. -/
def vacated (d : Desk) (o : OwnerId) : Desk :=
  match d.held o with
  | none => d
  | some s => { d with
    held := assign d.held o none
    sessions := assign d.sessions s ((d.sessions s).map fun x => { x with provider := none }) }

@[simp] theorem nextSession_vacated (d : Desk) (o : OwnerId) :
    (d.vacated o).nextSession = d.nextSession := by
  unfold vacated
  split <;> rfl

@[simp] theorem nextOwner_vacated (d : Desk) (o : OwnerId) :
    (d.vacated o).nextOwner = d.nextOwner := by
  unfold vacated
  split <;> rfl

theorem held_vacated (d : Desk) (o o' : OwnerId) :
    (d.vacated o).held o' = if o' = o then none else d.held o' := by
  unfold vacated
  cases ho : d.held o with
  | none =>
    by_cases h : o' = o
    · simp [h, ho]
    · simp [h]
  | some s =>
    by_cases h : o' = o
    · simp [h]
    · simp [assign, h]

theorem sessions_vacated (ho : d.held o = some s) (t : SessionId) :
    (d.vacated o).sessions t =
      if t = s then (d.sessions s).map fun x => { x with provider := none } else d.sessions t := by
  simp [vacated, ho, assign]

/-- What happens outside while an owner lets go of its session. -/
def leaving (d : Desk) (o : OwnerId) : Action World Unit :=
  match d.held o with
  | none => pure ()
  | some s => do
    match d.provider? s with
    | some provider => provider.releaseFully
    | none => pure ()
    log .info "[CL] OpenCL destroyed"

theorem isActive_iff {x : Session} (h : d.sessions s = some x) :
    d.isActive s = true ↔ x.isActive = true := by
  simp [isActive, provider?, h, Session.isActive]

theorem initial_coherent (w : World) : (initial w).Coherent where
  fresh _ _ := rfl
  held_active := nofun
  active_held := nofun

namespace Coherent

theorem putWorld (h : d.Coherent) (w : World) : (putWorld w d).Coherent :=
  ⟨h.fresh, h.held_active, h.active_held⟩

theorem lt_of_some (h : d.Coherent) {x : Session} (hx : d.sessions s = some x) :
    s < d.nextSession := by
  by_contra hle
  have hnone := h.fresh s (Nat.le_of_not_lt hle)
  simp [hnone] at hx

theorem lt_of_held (h : d.Coherent) (hs : d.held o = some s) : s < d.nextSession := by
  obtain ⟨x, hx, -⟩ := h.held_active o s hs
  exact h.lt_of_some hx

/-- A free owner may be given a new session. -/
theorem added (h : d.Coherent) {x : Session} (hfree : d.held x.owner = none)
    (hactive : x.isActive) : (d.added x).Coherent where
  fresh := by
    intro s hs
    have hlt : d.nextSession < s := hs
    exact (assign_other _ _ (Nat.ne_of_gt hlt)).trans (h.fresh s (Nat.le_of_lt hlt))
  held_active := by
    intro o s hs
    simp only [Desk.added] at hs ⊢
    by_cases ho : o = x.owner
    · subst ho
      obtain rfl : d.nextSession = s := by simpa using hs
      exact ⟨x, by simp, rfl, hactive⟩
    · rw [assign_other _ _ ho] at hs
      have hne := Nat.ne_of_lt (h.lt_of_held hs)
      rw [assign_other _ _ hne]
      exact h.held_active o s hs
  active_held := by
    intro s y hy hya
    simp only [Desk.added] at hy ⊢
    by_cases hs : s = d.nextSession
    · subst hs
      obtain rfl : x = y := by simpa using hy
      simp
    · rw [assign_other _ _ hs] at hy
      have hheld := h.active_held s y hy hya
      have hne : y.owner ≠ x.owner := by
        intro he
        simp [he, hfree] at hheld
      rw [assign_other _ _ hne]
      exact hheld

theorem vacated (h : d.Coherent) (o : OwnerId) : (d.vacated o).Coherent := by
  cases ho : d.held o with
  | none =>
    have hsame : d.vacated o = d := by simp [Desk.vacated, ho]
    rwa [hsame]
  | some s =>
    obtain ⟨x, hx, hxo, -⟩ := h.held_active o s ho
    constructor
    case fresh =>
      intro t ht
      rw [nextSession_vacated] at ht
      rw [sessions_vacated ho, h.fresh t ht]
      split
      · subst t
        simp [h.fresh s ht] at hx
      · rfl
    case held_active =>
      intro o' t ht
      rw [held_vacated] at ht
      split at ht
      · cases ht
      · obtain ⟨y, hy, hyo, hya⟩ := h.held_active o' t ht
        have hts : t ≠ s := by
          rintro rfl
          rw [hx] at hy
          cases hy
          exact absurd (hyo.symm.trans hxo) ‹o' ≠ o›
        exact ⟨y, by rw [sessions_vacated ho, if_neg hts]; exact hy, hyo, hya⟩
    case active_held =>
      intro t y hy hya
      rw [sessions_vacated ho] at hy
      split at hy
      · obtain rfl : { x with provider := none } = y := by simpa [hx] using hy
        simp [Session.isActive] at hya
      · have hheld := h.active_held t y hy hya
        have hne : y.owner ≠ o := by
          intro he
          rw [he, ho] at hheld
          cases hheld
          exact absurd rfl ‹s ≠ s›
        rw [held_vacated, if_neg hne]
        exact hheld

end Coherent

theorem keeps_vacated (d : Desk) (o : OwnerId) : d.Keeps (d.vacated o) := by
  intro t y hy
  cases ho : d.held o with
  | none => exact .inl (by simpa [vacated, ho] using hy)
  | some s =>
    rw [sessions_vacated ho]
    by_cases hts : t = s
    · subst hts
      exact .inr (by simp [hy])
    · exact .inl (by simpa [hts] using hy)

/-- Letting go of a session leaves those of other owners alone. -/
theorem vacated_other (h : d.Coherent) {x : Session} (hx : d.sessions s = some x)
    (hne : x.owner ≠ o) : (d.vacated o).sessions s = some x := by
  cases ho : d.held o with
  | none => simpa [vacated, ho] using hx
  | some t =>
    obtain ⟨y, hy, hyo, -⟩ := h.held_active o t ho
    have hst : s ≠ t := by
      rintro rfl
      rw [hx] at hy
      cases hy
      exact hne hyo
    rw [sessions_vacated ho, if_neg hst]
    exact hx

theorem provider?_vacated {provider : Provider} (h : (d.vacated o).provider? s = some provider) :
    d.provider? s = some provider := by
  cases ho : d.held o with
  | none => simpa [vacated, ho] using h
  | some t =>
    rw [provider?, sessions_vacated ho] at h
    split at h
    · cases hx : d.sessions t <;> simp [hx] at h
    · exact h

/-! How often the sessions of a desk hold a library or a provider. -/

def sessionHolds (d : Desk) (k : Serial) (s : SessionId) : Nat :=
  ((d.provider? s).map (Provider.holds k)).getD 0

def holders (d : Desk) (k : Serial) : Nat :=
  ∑ s ∈ Finset.range d.nextSession, d.sessionHolds k s

@[simp] theorem holders_putWorld (w : World) (d : Desk) (k : Serial) :
    (putWorld w d).holders k = d.holders k := rfl

theorem holders_added (d : Desk) (k : Serial) (x : Session) :
    (d.added x).holders k = d.holders k + (x.provider.map (Provider.holds k)).getD 0 := by
  have hold : ∀ s ∈ Finset.range d.nextSession,
      (d.added x).sessionHolds k s = d.sessionHolds k s := by
    intro s hs
    have hlt := Finset.mem_range.mp hs
    simp [sessionHolds, provider?, added, assign, show s ≠ d.nextSession by omega]
  have hnew : (d.added x).sessionHolds k d.nextSession =
      (x.provider.map (Provider.holds k)).getD 0 := by
    simp [sessionHolds, provider?, added]
  calc (d.added x).holders k
      = ∑ s ∈ Finset.range d.nextSession, (d.added x).sessionHolds k s +
          (d.added x).sessionHolds k d.nextSession := Finset.sum_range_succ _ _
    _ = d.holders k + (x.provider.map (Provider.holds k)).getD 0 := by
        rw [Finset.sum_congr rfl hold, hnew, holders]

/-- How often what an owner would let go of holds `k`. -/
def ownerHolds (d : Desk) (k : Serial) (o : OwnerId) : Nat :=
  ((d.held o).map (d.sessionHolds k)).getD 0

theorem holders_vacated (h : d.Coherent) (k : Serial) (o : OwnerId) :
    d.ownerHolds k o + (d.vacated o).holders k = d.holders k := by
  unfold ownerHolds vacated
  cases ho : d.held o with
  | none => simp
  | some s =>
    have hmem : s ∈ Finset.range d.nextSession := Finset.mem_range.mpr (h.lt_of_held ho)
    let e : Desk := { d with
      held := assign d.held o none
      sessions := assign d.sessions s ((d.sessions s).map fun x => { x with provider := none }) }
    have hnone : e.sessionHolds k s = 0 := by
      obtain ⟨x, hx, -⟩ := h.held_active o s ho
      simp [e, sessionHolds, provider?, hx]
    have hold : ∀ t ∈ (Finset.range d.nextSession).erase s,
        e.sessionHolds k t = d.sessionHolds k t := by
      intro t ht
      have hts : t ≠ s := (Finset.mem_erase.mp ht).1
      simp [e, sessionHolds, provider?, assign, hts]
    have hsum : e.holders k = ∑ t ∈ (Finset.range d.nextSession).erase s, d.sessionHolds k t := by
      rw [← Finset.sum_congr rfl hold, ← Nat.zero_add (∑ t ∈ _, _), ← hnone]
      exact (Finset.add_sum_erase _ _ hmem).symm
    change d.sessionHolds k s + e.holders k = d.holders k
    rw [hsum]
    exact Finset.add_sum_erase _ _ hmem

/-- A session is active as long as its owner holds it. -/
theorem isActive_iff_held (h : d.Coherent) {x : Session} (hx : d.sessions s = some x) :
    d.isActive s = true ↔ d.held x.owner = some s := by
  rw [isActive_iff hx]
  constructor
  · exact h.active_held s x hx
  · intro hheld
    obtain ⟨y, hy, -, hactive⟩ := h.held_active _ s hheld
    rw [hx] at hy
    cases hy
    exact hactive

/-- Where no owner holds a session, no session is active. -/
theorem Coherent.inactive_of_vacant (h : d.Coherent) (hvacant : ∀ o, d.held o = none)
    (s : SessionId) : d.provider? s = none := by
  cases hx : d.sessions s with
  | none => simp [provider?, hx]
  | some x =>
    cases hp : x.provider with
    | none => simp [provider?, hx, hp]
    | some provider =>
      have hheld := h.active_held s x hx (by simp [Session.isActive, hp])
      rw [hvacant] at hheld
      cases hheld

theorem Coherent.holders_of_vacant (h : d.Coherent) (hvacant : ∀ o, d.held o = none)
    (k : Serial) : d.holders k = 0 := by
  refine Finset.sum_eq_zero fun s _ => ?_
  simp [sessionHolds, h.inactive_of_vacant hvacant s]

/-- What a session holds, the desk holds. -/
theorem sessionHolds_le (h : d.Coherent) (k : Serial) {x : Session} (hx : d.sessions s = some x) :
    d.sessionHolds k s ≤ d.holders k := by
  have hmem : s ∈ Finset.range d.nextSession := Finset.mem_range.mpr (h.lt_of_some hx)
  rw [holders, ← Finset.add_sum_erase _ _ hmem]
  exact Nat.le_add_right _ _

/-- Letting go of a session ends what it held. -/
theorem leaving_closing (hk : k.IsRecorded) (d : Desk) (o : OwnerId) (host : Host) :
    Closing host k (d.ownerHolds k o) 0 d.world ((d.leaving o).run host d.world).2 := by
  unfold leaving ownerHolds
  cases d.held o with
  | none => exact .refl host k 0 _
  | some s =>
    simp only [Option.map_some, Option.getD_some, sessionHolds]
    cases d.provider? s with
    | none => exact log_closing _ (by decide) host k 0 _
    | some provider =>
      exact (provider.releaseFully_closing hk host _).trans (log_closing _ (by decide) host k 0 _)

end Desk

namespace OwnerId

theorem run_destroy (o : OwnerId) (host : Host) (d : Desk) :
    o.destroy.run host d =
      ((), Desk.putWorld ((d.leaving o).run host d.world).2 (d.vacated o)) := by
  unfold destroy Desk.leaving Desk.vacated
  cases ho : d.held o with
  | none =>
    have hsame := assign_self d.held o
    rw [ho] at hsame
    simp [Desk.takeSession, ho, hsame]
  | some s =>
    simp only [Desk.takeSession, SessionId.release, Desk.takeProvider, Desk.provider?,
      Action.run_bind, Action.run_modifyGet, ho]
    cases (d.sessions s).bind Session.provider <;> rfl

end OwnerId

namespace SessionId

/-- An inactive session answers nothing, and asks nothing. -/
structure Inert (host : Host) (d : Desk) (s : SessionId) : Prop where
  address : ∀ name, (s.address name).run host d = (.null, d)
  addressFor : ∀ p name, (s.addressFor p name).run host d = (.null, d)
  platforms : s.platforms.run host d = ([], d)
  platformText : ∀ p parameter, (s.platformText p parameter).run host d = (none, d)
  platformCapabilities : ∀ p, (s.platformCapabilities p).run host d = (.error .notStarted, d)

theorem inert (h : d.isActive s = false) (host : Host) : s.Inert host d := by
  have hnone : d.provider? s = none := by simpa [Desk.isActive] using h
  constructor
  case address => simp [address, provider?, hnone]
  case addressFor => simp [addressFor, provider?, hnone]
  case platforms =>
    simp only [platforms, entryOf, address, provider?, hnone, Address.entryOf, Action.run_bind,
      Action.run_get, Action.run_pure, Desk.run_liftAction]
    rfl
  case platformText =>
    intro p parameter
    simp only [platformText, entryOf, address, provider?, hnone, Address.entryOf, Action.run_bind,
      Action.run_get, Action.run_pure, Desk.run_liftAction]
    rfl
  case platformCapabilities =>
    intro p
    simp [platformCapabilities, Attempt.run_bind, provider?, hnone]

/-- From one desk to the other nothing happens but lookups in what the session draws on. -/
def Consults (s : SessionId) (d d' : Desk) : Prop :=
  ∃ w, d' = Desk.putWorld w d ∧ Consulting ((d.provider? s).bind Provider.root) d.world w

theorem consults_refl (s : SessionId) (d : Desk) : s.Consults d d :=
  ⟨d.world, rfl, Std.Refl.refl _⟩

theorem consults_of_active {provider : Provider} (h : d.provider? s = some provider) {w : World}
    (hw : Consulting provider.root d.world w) : s.Consults d (Desk.putWorld w d) :=
  ⟨w, rfl, by simpa [h] using hw⟩

theorem address_consults (s : SessionId) (name : String) (host : Host) (d : Desk) :
    s.Consults d ((s.address name).run host d).2 := by
  cases h : d.provider? s with
  | none => simpa [address, provider?, h] using consults_refl s d
  | some provider =>
    simpa [address, provider?, h] using
      consults_of_active h (provider.address_within name host d.world)

theorem addressFor_consults (s : SessionId) (p : PlatformId) (name : String) (host : Host)
    (d : Desk) : s.Consults d ((s.addressFor p name).run host d).2 := by
  cases h : d.provider? s with
  | none => simpa [addressFor, provider?, h] using consults_refl s d
  | some provider =>
    simpa [addressFor, provider?, h] using
      consults_of_active h (provider.addressFor_within p name host d.world)

theorem platforms_consults (s : SessionId) (host : Host) (d : Desk) :
    s.Consults d (s.platforms.run host d).2 := by
  cases h : d.provider? s with
  | none =>
    have hinactive : d.isActive s = false := by simp [Desk.isActive, h]
    rw [(inert hinactive host).platforms]
    exact consults_refl s d
  | some provider =>
    have hwithin : (do platformIds (← provider.entryOf .platformIds)).Within
        (Consulting provider.root) :=
      (provider.entryOf_within _).bind fun entry => platformIds_within entry
    have hconsults := consults_of_active h (hwithin host d.world)
    simp only [platforms, entryOf, address, provider?, Action.run_bind, Action.run_get,
      Action.run_pure, h]
    exact hconsults

theorem platformText_consults (s : SessionId) (p : PlatformId) (parameter : PlatformParameter)
    (host : Host) (d : Desk) : s.Consults d ((s.platformText p parameter).run host d).2 := by
  cases h : d.provider? s with
  | none =>
    have hinactive : d.isActive s = false := by simp [Desk.isActive, h]
    rw [(inert hinactive host).platformText]
    exact consults_refl s d
  | some provider =>
    have hwithin : (do OpenCL.platformText (← provider.entryOf .platformInfo) p parameter).Within
        (Consulting provider.root) :=
      (provider.entryOf_within _).bind fun entry => platformText_within entry p parameter
    have hconsults := consults_of_active h (hwithin host d.world)
    simp only [platformText, entryOf, address, provider?, Action.run_bind, Action.run_get,
      Action.run_pure, h]
    exact hconsults

theorem platformCapabilities_consults (s : SessionId) (p : PlatformId) (host : Host) (d : Desk) :
    s.Consults d ((s.platformCapabilities p).run host d).2 := by
  cases h : d.provider? s with
  | none => simpa [platformCapabilities, Attempt.run_bind, provider?, h] using consults_refl s d
  | some provider =>
    simpa [platformCapabilities, Attempt.run_bind, provider?, h] using
      consults_of_active h (Capabilities.ofPlatform_within provider p host d.world)

end SessionId

end NativeBinding.OpenCL
