import NativeBinding.Proofs.DeviceCommands
import NativeBinding.Proofs.SessionCommands

/-! Every command of a scenario is fair to what the objects hold, unless it only logs a message. -/
namespace NativeBinding.Scenario

open Bench

variable {host : Host} {b : Bench}

/-- The provider that a command hands over for good, if it gets so far. -/
def Command.handed (host : Host) (b : Bench) : Command → Option Provider
  | provider command => command.handed host b
  | session command => command.handed host b
  | audio command => command.handed host b
  | headset command => command.handed host b
  | log _ => none

/-- A command settles all that it takes in hand, unless it only logs a message. -/
theorem Command.settles_or_speaks (c : Command) (hb : b.Healthy) :
    Settles host (c.handed host b) b (c.perform.run host b).2 ∨
      ∃ level text, c = .log (.message level text) := by
  cases c with
  | provider command => exact .inl (command.perform_settles hb)
  | session command => exact .inl (command.perform_settles hb)
  | audio command => exact .inl (command.perform_settles hb)
  | headset command => exact .inl (command.perform_settles hb)
  | log command =>
    have hworld : ∀ handler, Fair host none false b
        (b.putWorld { b.desk.world with handler := handler }) := by
      intro handler
      have hreads : Reads none b (b.putWorld { b.desk.world with handler := handler }) :=
        ⟨_, rfl, Recording.of_eq rfl rfl⟩
      exact hreads.fair hb host nofun
    cases command with
    | install handler => exact .inl (hworld _).settles
    | clear => exact .inl (hworld _).settles
    | message level text => exact .inr ⟨level, text, rfl⟩

end NativeBinding.Scenario
