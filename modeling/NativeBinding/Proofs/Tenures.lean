import NativeBinding.Proofs.Teardown

/-!
Sessions over whole runs. A session is active exactly as long as the owner that created it holds it,
whatever happens to other owners, and it comes back no more.
-/
namespace NativeBinding.Scenario

open OpenCL Bench

variable {host : Host} {b : Bench} {o : OwnerId} {s : SessionId}

namespace SessionCommand

/-- The owner that a command makes let go of its session. -/
def vacates (b : Bench) : SessionCommand → Option OwnerId
  | destroy name => b.owner? name
  | dropOwner name => if name = globalName then none else b.owners.get? name
  -- The owner that had the name is dropped.
  | newOwner name => b.owners.get? name
  | _ => none

/-- Such a command empties that owner's slot and leaves every other as it is. -/
theorem perform_vacates {c : SessionCommand} (h : c.vacates b = some o) (host : Host) :
    (c.perform.run host b).2.desk.sessions = (b.desk.vacated o).sessions ∧
      (c.perform.run host b).2.desk.held = (b.desk.vacated o).held := by
  have hdestroy : ∀ d : Desk, d.held = b.desk.held → d.sessions = b.desk.sessions →
      (o.destroy.run host d).2.sessions = (b.desk.vacated o).sessions ∧
        (o.destroy.run host d).2.held = (b.desk.vacated o).held := by
    intro d hheld hsessions
    rw [OwnerId.run_destroy]
    simp only [Desk.putWorld, Desk.vacated, hheld]
    cases b.desk.held o with
    | none => exact ⟨hsessions, hheld⟩
    | some s => simp [hsessions]
  cases c with
  | destroy name =>
    rw [vacates] at h
    simp only [perform, withOwner, Action.run_bind, Action.run_get, h, withObject]
    exact hdestroy b.desk rfl rfl
  | dropOwner name =>
    rw [vacates] at h
    simp only [perform, Action.run_bind, Action.run_get, h, withObject]
    exact hdestroy b.desk rfl rfl
  | newOwner name =>
    rw [vacates] at h
    simp only [perform, OwnerId.new, Action.run_bind, Action.run_get, Action.run_modify,
      run_liftDesk, Action.run_modifyGet, putDesk, h]
    exact hdestroy { b.desk with nextOwner := b.desk.nextOwner + 1 } rfl rfl
  | _ => cases h

end SessionCommand

/-- No two names stand for the same owner. -/
theorem owner?_inj (hb : b.Healthy) {name other : String} (h : b.owner? name = some o)
    (h' : b.owner? other = some o) : name = other := by
  unfold Bench.owner? at h h'
  split at h
  · split at h'
    · exact ‹name = globalName›.trans ‹other = globalName›.symm
    · obtain rfl := Option.some.inj h
      have hgiven := hb.named.given _ (Shelf.mem_values_of_get? h')
      exact (Nat.lt_irrefl _ hgiven.1).elim
  · split at h'
    · obtain rfl := Option.some.inj h'
      have hgiven := hb.named.given _ (Shelf.mem_values_of_get? h)
      exact (Nat.lt_irrefl _ hgiven.1).elim
    · exact Shelf.get?_inj hb.named.distinct h h'

/-- What holds of the sessions after some turns of a run, and of the same sessions after more. -/
structure HeldWhileActive (first : Host) (earlier later : List Turn) : Prop where
  active : ∀ s x, (reached first earlier).desk.sessions s = some x →
    ((reached first earlier).desk.isActive s = true ↔
      (reached first earlier).desk.held x.owner = some s ∧
        (x.owner = Desk.globalOwner ∨ x.owner ∈ (reached first earlier).owners.values))
  single : ∀ s t x y, (reached first earlier).desk.sessions s = some x →
    (reached first earlier).desk.sessions t = some y → x.owner = y.owner →
    (reached first earlier).desk.isActive s = true →
    (reached first earlier).desk.isActive t = true → s = t
  /-- Every handle stands for one of the sessions. -/
  handles : ∀ s ∈ (reached first earlier).handles.values,
    ((reached first earlier).desk.sessions s).isSome
  owners : ∀ name other o, (reached first earlier).owner? name = some o →
    (reached first earlier).owner? other = some o → name = other
  /-- What an owner that holds a session is asked for is that session. -/
  found : ∀ (host : Host) o s config, (reached first earlier).desk.held o = some s →
    o.session?.run host (reached first earlier).desk = (some s, (reached first earlier).desk) ∧
      (o.getOrCreate config).run host (reached first earlier).desk =
        (.ok s, (reached first earlier).desk)
  /-- What a call returns the owner holds. -/
  created : ∀ (host : Host) (call : Creation) o s d,
    (call.attempt o).run host (reached first earlier).desk = (.ok s, d) →
      d.held o = some s ∧ d.isActive s = true
  /-- An owner that lets go of its session, or is dropped, does nothing to others. -/
  vacated : ∀ (host : Host) (c : SessionCommand) o, c.vacates (reached first earlier) = some o →
    (c.perform.run host (reached first earlier)).2.desk.held o = none ∧
      ∀ s x, (reached first earlier).desk.sessions s = some x → x.owner ≠ o →
        (c.perform.run host (reached first earlier)).2.desk.sessions s = some x
  /-- When all owners are dropped, no session is left active. -/
  ended : ∀ (host : Host) s, (teardown.run host (reached first earlier)).2.desk.isActive s = false
  inactive : ∀ (host : Host) s, (reached first earlier).desk.isActive s = false →
    SessionId.Inert host (reached first earlier).desk s
  /-- A session keeps all but its provider, and does not get back what it lost. -/
  persists : ∀ s x, (reached first earlier).desk.sessions s = some x →
    ∃ y, (reached first (earlier ++ later)).desk.sessions s = some y ∧ y.owner = x.owner ∧
      y.library = x.library ∧ y.strategy = x.strategy ∧
      ((reached first (earlier ++ later)).desk.isActive s = true →
        (reached first earlier).desk.isActive s = true)

/-- In every run a session is active exactly as long as it is what its owner holds. -/
theorem held_while_active (first : Host) (earlier later : List Turn) :
    HeldWhileActive first earlier later := by
  have hproper := reached_proper first earlier
  have hb := hproper.healthy
  have hcoherent := hb.coherent
  constructor
  case active =>
    intro s x hx
    rw [Desk.isActive_iff_held hcoherent hx]
    exact ⟨fun hheld => ⟨hheld, hb.owned _ s hheld⟩, And.left⟩
  case single =>
    intro s t x y hx hy howner hs ht
    rw [Desk.isActive_iff_held hcoherent hx, howner] at hs
    rw [Desk.isActive_iff_held hcoherent hy, hs] at ht
    exact Option.some.inj ht
  case handles => exact hb.handled
  case owners => exact fun name other o h h' => owner?_inj hb h h'
  case found =>
    intro host o s config hs
    constructor
    · simp [OwnerId.session?, hs]
    · simp [OwnerId.getOrCreate, OwnerId.session?, Attempt.run_bind, hs]
  case created =>
    intro host call o s d hrun
    have hcreates := call.attempt_creates host (reached first earlier).desk o
    rw [hrun] at hcreates
    have hheld := hcreates.held_ok
    obtain ⟨x, hx, -, hxa⟩ := (hcreates.coherent hcoherent).held_active o s hheld
    exact ⟨hheld, (Desk.isActive_iff hx).mpr hxa⟩
  case vacated =>
    intro host c o hc
    obtain ⟨hsessions, hheld⟩ := SessionCommand.perform_vacates hc host
    rw [hsessions, hheld]
    constructor
    · simp [Desk.held_vacated]
    · exact fun s x hx hne => Desk.vacated_other hcoherent hx hne
  case ended =>
    intro host s
    obtain ⟨hlast, hvacant⟩ := teardown_vacates hb host
    simp [Desk.isActive, hlast.inactive_of_vacant hvacant s]
  case inactive => exact fun host s hs => SessionId.inert hs host
  case persists =>
    intro s x hx
    have hlater := (after_advances hproper later).keeps s x hx
    rw [← reached_append] at hlater
    rcases hlater with hsame | hless
    · refine ⟨x, hsame, rfl, rfl, rfl, fun ha => ?_⟩
      rw [Desk.isActive_iff hsame] at ha
      exact (Desk.isActive_iff hx).mpr ha
    · refine ⟨_, hless, rfl, rfl, rfl, fun ha => ?_⟩
      rw [Desk.isActive_iff hless] at ha
      simp [Session.isActive] at ha

end NativeBinding.Scenario
