import NativeBinding.Proofs.Ledger

/-!
Runs of commands, on a host that need not answer the same from one command to the next. Every
command leaves a bench proper, and so does every run of them; what the bench holds then agrees with
the events of the run.
-/
namespace NativeBinding.Scenario

open OpenCL Bench

variable {host : Host} {k : Serial} {b b' : Bench} {life : Life} {es : List Event}

/-- A command, and the host as it is while the command is performed. -/
structure Turn where
  host : Host
  command : Command

namespace Turn

def next (b : Bench) (t : Turn) : Bench := (t.command.perform.run t.host b).2

def events (b : Bench) (t : Turn) : List Event :=
  ((observed t.command.perform).run t.host b).1.2

end Turn

/-- The bench that some turns end with. The host may have changed from each to the next. -/
def after (b : Bench) (turns : List Turn) : Bench := turns.foldl Turn.next b

/-- The events of some turns, in order. -/
def eventsOf (b : Bench) : List Turn → List Event
  | [] => []
  | t :: turns => t.events b ++ eventsOf (t.next b) turns

/-- The events of the teardown. -/
def finalEvents (host : Host) (b : Bench) : List Event := ((observed teardown).run host b).1.2

/-- The bench that some turns end with, from the start. -/
def reached (host : Host) (turns : List Turn) : Bench := after (.start host) turns

@[simp] theorem after_nil (b : Bench) : after b [] = b := rfl

@[simp] theorem after_cons (b : Bench) (t : Turn) (turns : List Turn) :
    after b (t :: turns) = after (t.next b) turns := rfl

theorem reached_append (host : Host) (earlier later : List Turn) :
    reached host (earlier ++ later) = after (reached host earlier) later :=
  List.foldl_append

@[simp] theorem eventsOf_cons (b : Bench) (t : Turn) (turns : List Turn) :
    eventsOf b (t :: turns) = t.events b ++ eventsOf (t.next b) turns := rfl

/-- The turns of a scenario, whose host stays as it is. -/
def turnsOn (host : Host) (commands : List Command) : List Turn := commands.map (Turn.mk host)

theorem performAll_run (host : Host) (b : Bench) (commands : List Command) :
    ((performAll commands).run host b).2 = after b (turnsOn host commands) ∧
      ((performAll commands).run host b).1.flatMap Prod.snd =
        eventsOf b (turnsOn host commands) := by
  induction commands generalizing b with
  | nil => exact ⟨rfl, rfl⟩
  | cons c commands ih =>
    obtain ⟨hafter, hevents⟩ := ih ((Turn.mk host c).next b)
    simp only [performAll, List.mapM_cons] at hafter hevents ⊢
    exact ⟨hafter, congrArg (_ ++ ·) hevents⟩

/-- A scenario is a run, and then the teardown. -/
theorem run_events (host : Host) (commands : List Command) :
    (run host commands).1.flatMap Prod.snd = eventsOf (.start host) (turnsOn host commands) ∧
      (run host commands).2 = finalEvents host (reached host (turnsOn host commands)) := by
  obtain ⟨hafter, hevents⟩ := performAll_run host (.start host) commands
  refine ⟨hevents, ?_⟩
  rw [reached, ← hafter]
  rfl

/-- The observed events are those that the history grows by. -/
theorem observed_events {α : Type} {x : Action Bench α}
    (h : (x.run host b).2.desk.world.history = es.reverse ++ b.desk.world.history) :
    ((observed x).run host b).1.2 = es := by
  simp only [observed, Action.run_bind, Action.run_get, Action.run_pure, h, List.length_append,
    Nat.add_sub_cancel, List.take_left', List.reverse_reverse]

/-- A bench whose objects belong together, and hold nothing twice. -/
structure Bench.Proper (b : Bench) : Prop where
  healthy : b.Healthy
  linear : b.Linear none

/-- What commands make of a proper bench while these events happen. -/
structure Advances (b b' : Bench) (new : List Event) : Prop where
  proper : b'.Proper
  keeps : b.desk.Keeps b'.desk
  history : b'.desk.world.history = new.reverse ++ b.desk.world.history
  enclosed : ∀ k, b.Enclosed k → b'.Enclosed k
  ledger : ∀ (k : Serial) (life : Life) (es : List Event), k.IsRecorded → b.Enclosed k →
    b.Ledger k life es none → b'.Ledger k life (es ++ new) none

namespace Advances

variable {b'' : Bench} {new more : List Event}

theorem refl (hb : b.Proper) : Advances b b [] where
  proper := hb
  keeps := b.desk.keeps_refl
  history := rfl
  enclosed := fun _ => id
  ledger := by
    intro k life es _ _ hledger
    rwa [List.append_nil]

theorem trans (h : Advances b b' new) (h' : Advances b' b'' more) :
    Advances b b'' (new ++ more) where
  proper := h'.proper
  keeps := IsTrans.trans _ _ _ h.keeps h'.keeps
  history := by simp [h.history, h'.history]
  enclosed := fun k hk => h'.enclosed k (h.enclosed k hk)
  ledger := by
    intro k life es hrecorded hk hledger
    have hnext := h.ledger k life es hrecorded hk hledger
    rw [← List.append_assoc]
    exact h'.ledger k life _ hrecorded (h.enclosed k hk) hnext

theorem of_settles {handed : Option Provider} (h : Settles host handed b b') (hb : b.Proper)
    (hnew : b'.desk.world.history = new.reverse ++ b.desk.world.history) : Advances b b' new where
  proper := ⟨h.healthy, h.linear hb.linear⟩
  keeps := h.keeps
  history := hnew
  enclosed := fun _ => h.enclosed
  ledger := fun _ _ _ hrecorded hk hledger => h.ledger hrecorded hk hledger hnew

/-- A message is nothing to what is opened and held. -/
theorem of_message (hb : b.Proper) (receiver : Option String) (level : LogLevel) (text : String) :
    Advances b (b.putWorld { b.desk.world with
      history := .message receiver level text :: b.desk.world.history })
      [.message receiver level text] where
  proper := ⟨hb.healthy.putWorld _, ⟨hb.linear.single, hb.linear.fresh⟩⟩
  keeps := b.desk.keeps_refl
  history := rfl
  enclosed := fun k hk => ⟨hk.not_bare, hk.known⟩
  ledger := by
    intro k life es _ _ hledger
    have hstep : ∀ life : Life, life.step k (.message receiver level text) = life := fun _ => rfl
    have hsame : life.after k (es ++ [.message receiver level text]) = life.after k es := by
      rw [Life.after_append, Life.after_cons, hstep]
      rfl
    constructor
    case inTurn =>
      rw [hsame]
      exact hledger.inTurn
    case held =>
      rw [hsame]
      exact hledger.held
    case fresh =>
      rw [hsame]
      exact hledger.fresh

end Advances

theorem events_message (level : LogLevel) (text : String) (host : Host) (b : Bench) :
    (Turn.mk host (.log (.message level text))).events b =
      [.message (b.desk.world.handler.map Handler.name) level text] :=
  observed_events rfl

/-- Every command leaves a proper bench proper, and what it holds in agreement with its history. -/
theorem Turn.advances (t : Turn) (hb : b.Proper) : Advances b (t.next b) (t.events b) := by
  obtain ⟨host, c⟩ := t
  have hcases : Settles host (c.handed host b) b (c.perform.run host b).2 ∨ _ :=
    c.settles_or_speaks hb.healthy
  rcases hcases with hsettles | ⟨level, text, rfl⟩
  · obtain ⟨acting, closing, hhistory, -⟩ := hsettles.passage
    rw [events, observed_events hhistory]
    exact .of_settles hsettles hb hhistory
  · rw [events_message]
    exact .of_message hb _ level text

theorem after_advances (hb : b.Proper) (turns : List Turn) :
    Advances b (after b turns) (eventsOf b turns) := by
  induction turns generalizing b with
  | nil => exact .refl hb
  | cons t turns ih =>
    rw [after_cons, eventsOf_cons]
    have hfirst := t.advances hb
    exact hfirst.trans (ih hfirst.proper)

theorem start_holders (host : Host) (k : Serial) : (Bench.start host).holders k = 0 := rfl

theorem start_proper (host : Host) : (Bench.start host).Proper := by
  constructor
  case healthy =>
    constructor
    case coherent => exact Desk.initial_coherent _
    case named => exact ⟨Nat.lt_succ_self _, nofun, List.nodup_nil⟩
    all_goals simp [Bench.start, Bench.initial, Desk.initial, Desk.provider?]
  case linear =>
    constructor
    case single =>
      intro k _
      rw [start_holders]
      exact Nat.zero_le 1
    case fresh =>
      intro k _ _
      rw [start_holders]
      rfl

theorem reached_proper (host : Host) (turns : List Turn) : (reached host turns).Proper :=
  (after_advances (start_proper host) turns).proper

/-- Nothing is open at the start. -/
theorem start_ledger (host : Host) (k : Serial) :
    (Bench.start host).Ledger k .unopened [] none where
  inTurn := by simp
  held := rfl
  fresh := fun _ => rfl

end NativeBinding.Scenario
