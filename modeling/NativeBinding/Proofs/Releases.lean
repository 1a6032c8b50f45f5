import NativeBinding.Proofs.Teardown

/-!
Every library that is opened is closed once, and every provider that is handed over is released
once: as soon as no object holds it any more, and after its last use.
-/
namespace NativeBinding.Scenario

open OpenCL Bench

variable {host : Host} {k : Serial} {b : Bench} {life : Life} {es : List Event}

def timesOpened (k : Serial) (es : List Event) : Nat := es.countP fun e => e.opens? = some k

/-- How often `k` is closed or released. -/
def timesEnded (k : Serial) (es : List Event) : Nat := es.countP fun e => e.ends? = some k

/-- What had this life before these events is opened, looked into and ended in its turn: by the end
of them as often as it was begun and is not held any more, and by the end of the teardown as often
as it was begun. -/
structure EndsOnce (k : Serial) (life : Life) (es final : List Event) (held : Nat) : Prop where
  inTurn : life.after k (es ++ final) ≠ .violated
  once : life.begun + timesOpened k (es ++ final) ≤ 1
  live : life.after k es = .live ↔ held = 1
  balance : timesEnded k es + held = life.begun + timesOpened k es
  settled : timesEnded k (es ++ final) = life.begun + timesOpened k (es ++ final)

theorem Bench.Ledger.endsOnce (h : b.Ledger k life es none) (hb : b.Healthy)
    (hrecorded : k.IsRecorded) (hk : b.Enclosed k) (hlife : life.finished = 0) :
    EndsOnce k life es (finalEvents host b) (b.holders k) := by
  obtain ⟨hinTurn, hnone⟩ : life.after k (es ++ finalEvents host b) ≠ .violated ∧
      (life.after k (es ++ finalEvents host b)).holders = 0 := teardown_ledger hb hrecorded hk h
  have hheld : (life.after k es).holders = b.holders k := by simpa using h.held
  obtain ⟨hopened, hended⟩ := Life.count_after h.inTurn
  obtain ⟨hopened', hended'⟩ := Life.count_after hinTurn
  have hbegun := Life.begun_eq h.inTurn
  have hbegun' := Life.begun_eq hinTurn
  constructor
  case inTurn => exact hinTurn
  case once =>
    have hle : ∀ life : Life, life.begun ≤ 1 := by
      intro life
      cases life <;> simp [Life.begun]
    unfold timesOpened
    rw [hopened']
    exact hle _
  case live =>
    rw [← hheld, ← Life.holders_pos]
    have hle : (life.after k es).holders ≤ 1 := Life.holders_le_one
    omega
  case balance =>
    unfold timesEnded timesOpened
    omega
  case settled =>
    unfold timesEnded timesOpened
    omega

/-- Every library is accounted for from the start. -/
theorem endsOnce_library (first last : Host) (turns : List Turn) (n : Nat) :
    EndsOnce (.library n) .unopened (eventsOf (.start first) turns)
      (finalEvents last (reached first turns)) ((reached first turns).holders (.library n)) := by
  have hrecorded := Serial.isRecorded_library n
  have hadvances := after_advances (start_proper first) turns
  have hledger := hadvances.ledger (.library n) .unopened [] hrecorded (enclosed_library _ n)
    (start_ledger first _)
  exact hledger.endsOnce hadvances.proper.healthy hrecorded (enclosed_library _ n) rfl

/-- A provider is accounted for from the command on that hands it over. -/
theorem endsOnce_handed {first : Host} {earlier later : List Turn} {t : Turn} {p : SuppliedProvider}
    (hhanded : t.command.handed t.host (reached first earlier) = some (.supplied p))
    (hfull : p.isFull = true) (last : Host) :
    EndsOnce p.serial .live (eventsOf (reached first earlier) (t :: later))
      (finalEvents last (reached first (earlier ++ t :: later)))
      ((reached first (earlier ++ t :: later)).holders p.serial) := by
  have hrecorded : p.serial.IsRecorded := by
    simp [SuppliedProvider.serial, hfull, Serial.IsRecorded]
  have hearlier := reached_proper first earlier
  rw [reached_append, after_cons, eventsOf_cons]
  generalize reached first earlier = b at hhanded hearlier ⊢
  have hfirst := t.advances hearlier
  have hsettles : Settles t.host (some (.supplied p)) b (t.next b) := by
    rw [← hhanded]
    rcases t.command.settles_or_speaks hearlier.healthy with hsettles | ⟨level, text, hlog⟩
    · exact hsettles
    · rw [hlog] at hhanded
      cases hhanded
  obtain ⟨hledger, henclosed⟩ := hsettles.ledger_handed hearlier.linear hrecorded hfirst.history
  have hlater := after_advances hfirst.proper later
  have hlast := hlater.ledger _ _ _ hrecorded henclosed hledger
  exact hlast.endsOnce hlater.proper.healthy hrecorded (hlater.enclosed _ henclosed) rfl

/-- In no command is anything used once something is ended, and each close that fails is reported
once. -/
theorem Turn.events_ordered (t : Turn) (hb : b.Healthy) :
    (∃ acting closing, t.events b = acting ++ closing ∧
      (∀ e ∈ acting, e.isEnd = false) ∧ (∀ e ∈ closing, e.isUse = false) ∧
      Reported t.host (acting ++ closing)) ∨
    ∃ receiver level text, t.command = .log (.message level text) ∧
      t.events b = [.message receiver level text] := by
  obtain ⟨host, c⟩ := t
  have hcases : Settles host (c.handed host b) b (c.perform.run host b).2 ∨ _ :=
    c.settles_or_speaks hb
  rcases hcases with hsettles | ⟨level, text, rfl⟩
  · obtain ⟨acting, closing, hhistory, hends, huses, hreported⟩ := hsettles.passage
    exact .inl ⟨acting, closing, observed_events hhistory, hends, huses, hreported⟩
  · exact .inr ⟨_, level, text, rfl, events_message level text host b⟩

theorem finalEvents_reported (host : Host) (hb : b.Healthy) :
    Reported host (finalEvents host b) := by
  obtain ⟨es, hconduct⟩ : ∃ es, Conduct host (.library 0) (b.holders (.library 0)) 0 b.desk.world
      (teardown.run host b).2.desk.world es :=
    teardown_conduct hb (Serial.isRecorded_library 0) (b.not_bare_library 0)
  rw [finalEvents, observed_events hconduct.history]
  exact hconduct.reported

/-- A runtime that is dropped is shut down if it is started, and only then lets go of its
provider. -/
theorem drop_order (r : LibOVR.HeadsetRuntime) (host : Host) (w : World) :
    ∃ acting closing : List Event,
      (r.drop.run host w).2.history = (acting ++ closing).reverse ++ w.history ∧
      (∀ e ∈ acting, e.isEnd = false) ∧ (∀ e ∈ closing, e.isUse = false) ∧
      acting.count (.called r.shutdownEntry.library .ovrShutdown) =
        if r.isStarted then 1 else 0 := by
  obtain ⟨acting, hacting, hends, hcount⟩ := r.shutdown_calls host w
  obtain ⟨closing, hconduct, huses⟩ := (r.shutdown.run host w).1.provider.releaseFully_closing
    (Serial.isRecorded_library 0) host (r.shutdown.run host w).2
  refine ⟨acting, closing, ?_, hends, huses, hcount⟩
  have hhistory : (r.drop.run host w).2.history =
      closing.reverse ++ (r.shutdown.run host w).2.history := hconduct.history
  rw [hhistory, hacting, List.reverse_append, List.append_assoc]

/-- How a run that ends with a teardown lets go of all that it opens and is handed. -/
structure ReleasesOnce (first : Host) (turns : List Turn) (last : Host) : Prop where
  libraries : ∀ n, EndsOnce (.library n) .unopened (eventsOf (.start first) turns)
    (finalEvents last (reached first turns)) ((reached first turns).holders (.library n))
  /-- From the command on that hands it over, whatever the application did with it before. -/
  providers : ∀ earlier t later, turns = earlier ++ t :: later →
    ∀ p, t.command.handed t.host (reached first earlier) = some (.supplied p) → p.isFull = true →
      EndsOnce p.serial .live (eventsOf (reached first earlier) (t :: later))
        (finalEvents last (reached first turns)) ((reached first turns).holders p.serial)
  /-- In no command is anything used once something is ended, and each close that fails is reported
  once. A command that logs a message of its own does nothing else. -/
  steps : ∀ earlier t later, turns = earlier ++ t :: later →
    (∃ acting closing, t.events (reached first earlier) = acting ++ closing ∧
      (∀ e ∈ acting, e.isEnd = false) ∧ (∀ e ∈ closing, e.isUse = false) ∧
      Reported t.host (acting ++ closing)) ∨
    ∃ receiver level text, t.command = .log (.message level text) ∧
      t.events (reached first earlier) = [.message receiver level text]
  teardown : Reported last (finalEvents last (reached first turns))
  /-- What was released is not asked any more, nor anything through it. -/
  released : ∀ held ∈ (reached first turns).providers.values,
    held.provider.root = none → ∀ host, held.provider.Silent host
  inactive : ∀ s, (reached first turns).desk.provider? s = none →
    ∀ host, SessionId.Inert host (reached first turns).desk s
  /-- All other objects hold what they draw on. -/
  sessions : ∀ s provider, (reached first turns).desk.provider? s = some provider →
    provider.root.isSome
  audio : ∀ a ∈ (reached first turns).audio.values, a.provider.root.isSome
  headsets : ∀ r ∈ (reached first turns).headsets.values, r.provider.root.isSome
  shutdown : ∀ (r : LibOVR.HeadsetRuntime) (host : Host) (w : World),
    ∃ acting closing : List Event,
      (r.drop.run host w).2.history = (acting ++ closing).reverse ++ w.history ∧
        (∀ e ∈ acting, e.isEnd = false) ∧ (∀ e ∈ closing, e.isUse = false) ∧
        acting.count (.called r.shutdownEntry.library .ovrShutdown) = if r.isStarted then 1 else 0

/-- Whatever is done in whatever order, and whatever the host answers to each command, every library
that is opened is closed once and every provider that is handed over is released once, as soon as
nobody holds it any more and after its last use. -/
theorem releases_once (first : Host) (turns : List Turn) (last : Host) :
    ReleasesOnce first turns last := by
  have hb := (reached_proper first turns).healthy
  constructor
  case libraries => exact fun n => endsOnce_library first last turns n
  case providers =>
    rintro earlier t later rfl p hhanded hfull
    exact endsOnce_handed hhanded hfull last
  case steps => exact fun earlier t _ _ => t.events_ordered (reached_proper first earlier).healthy
  case teardown => exact finalEvents_reported last hb
  case released =>
    exact fun held hheld hroot host => Provider.silent (hb.providers held hheld hroot) host
  case inactive => exact fun s hs host => SessionId.inert (by simp [Desk.isActive, hs]) host
  case sessions => exact hb.sessions
  case audio => exact hb.audio
  case headsets => exact hb.headsets
  case shutdown => exact fun r host w => drop_order r host w

end NativeBinding.Scenario
