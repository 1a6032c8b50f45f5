import NativeBinding.Scenario.Devices
import NativeBinding.Scenario.Sessions

/-!
Scenarios: sequences of commands on named objects, ended by a teardown that drops every object.
-/
namespace NativeBinding.Scenario

open OpenCL

/-- A command about the log. -/
inductive LogCommand where
  | install (handler : Handler)
  | clear
  | message (level : LogLevel) (text : String)

def LogCommand.perform : LogCommand → Action Bench Answer
  | install handler => do
    setHandler (some handler)
    return .done
  | clear => do
    setHandler none
    return .done
  | message level text => do
    log level text
    return .done

/-- A command of a scenario. -/
inductive Command where
  | provider (command : ProviderCommand)
  | session (command : SessionCommand)
  | audio (command : AudioCommand)
  | headset (command : HeadsetCommand)
  | log (command : LogCommand)

def Command.perform : Command → Action Bench Answer
  | provider command => command.perform
  | session command => command.perform
  | audio command => command.perform
  | headset command => command.perform
  | log command => command.perform

/-- The computation together with the events that it adds, in order. -/
def observed {α : Type} (x : Action Bench α) : Action Bench (α × List Event) := do
  let earlier := (← get).desk.world.history.length
  let a ← x
  let history := (← get).desk.world.history
  return (a, (history.take (history.length - earlier)).reverse)

/-- Drops every object: handles and providers first, then runtimes, OpenAL libraries and owners,
each kind in the order of names, and last the session of the global owner. -/
def teardown : Action Bench Unit := do
  let b ← get
  set { b with
    handles := .empty, providers := .empty, headsets := .empty, audio := .empty, owners := .empty }
  b.providers.values.forM fun held => (held.provider.drop : Action World Unit)
  b.headsets.values.forM fun r => (r.drop : Action World Unit)
  b.audio.values.forM fun a => (a.drop : Action World Unit)
  b.owners.values.forM fun o => (OwnerId.destroy o : Action Desk Unit)
  OwnerId.destroy Desk.globalOwner

/-- Performs commands in order. -/
def performAll (commands : List Command) : Action Bench (List (Answer × List Event)) :=
  commands.mapM fun command => observed command.perform

/-- The handler that is installed when a scenario starts. -/
def mainHandler : Handler := { name := "main" }

/-- The bench that a scenario starts with on a host. -/
def Bench.start (host : Host) : Bench := .initial (.initial host (some mainHandler))

/-- The answers and events of each command, and the events of the teardown. -/
def run (host : Host) (commands : List Command) : List (Answer × List Event) × List Event :=
  let x : Action Bench _ := do
    let steps ← performAll commands
    let (_, final) ← observed teardown
    return (steps, final)
  (x.run host (.start host)).1

end NativeBinding.Scenario
