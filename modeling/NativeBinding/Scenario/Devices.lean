import NativeBinding.Scenario.Providers

/-! What a scenario can do with OpenAL libraries and headset runtimes. -/
namespace NativeBinding.Scenario

open OpenAL LibOVR

/-- A command about OpenAL libraries. -/
inductive AudioCommand where
  | ofProvider (source : Source) (as : String)
  | load (config : Config) (as : String)
  | check (audio : String)
  | checkDevice (audio : String) (device : Device)
  | errorText (audio : String) (code : Int32)
  | deviceErrorText (audio : String) (device : Device) (code : Int32)
  | drop (audio : String)

/-- A command about headset runtimes. -/
inductive HeadsetCommand where
  | ofProvider (source : Source) (as : String)
  | load (config : Config) (as : String)
  | start (headset : String) (flags : StartFlags)
  | version (headset : String)
  | state (headset : String)
  | shutdown (headset : String)
  | drop (headset : String)

/-- Does something with the OpenAL library under a name. -/
def withAudio (name : String) (x : AudioLibrary → Action Bench Answer) : Action Bench Answer := do
  withObject ((← get).audio.get? name) x

/-- Does something with the runtime under a name. -/
def withHeadset (name : String) (x : HeadsetRuntime → Action Bench Answer) :
    Action Bench Answer := do
  withObject ((← get).headsets.get? name) x

/-- Makes an OpenAL library and keeps it under a name. -/
def keepAudio (as : String) (x : Attempt World AudioLibrary) : Action Bench Answer := do
  match ← x.outcome with
  | .ok a =>
    let old := (← get).audio.get? as
    modify fun b => { b with audio := b.audio.put as a }
    dropOld (fun a => a.drop) old
    return .ok .audio
  | .error failure => return .failed failure

/-- Makes a runtime and keeps it under a name. -/
def keepHeadset (as : String) (x : Attempt World HeadsetRuntime) : Action Bench Answer := do
  match ← x.outcome with
  | .ok r =>
    let old := (← get).headsets.get? as
    modify fun b => { b with headsets := b.headsets.put as r }
    dropOld (fun r => r.drop) old
    return .ok (.headset r)
  | .error failure => return .failed failure

namespace AudioCommand

def perform : AudioCommand → Action Bench Answer
  | ofProvider source as => do
    withObject (← source.take) fun held => keepAudio as (AudioLibrary.ofProvider held.provider)
  | load config as => keepAudio as (AudioLibrary.load config)
  | check audio => withAudio audio fun a => do
    return .ofExcept (fun _ => .nothing) (← a.check.outcome)
  | checkDevice audio device => withAudio audio fun a => do
    return .ofExcept (fun _ => .nothing) (← (a.checkDevice device).outcome)
  | errorText audio code => withAudio audio fun a => do
    return .text (← a.errorText code)
  | deviceErrorText audio device code => withAudio audio fun a => do
    return .text (← a.deviceErrorText device code)
  | drop audio => withAudio audio fun a => do
    modify fun b => { b with audio := b.audio.erase audio }
    a.drop
    return .done

end AudioCommand

namespace HeadsetCommand

def perform : HeadsetCommand → Action Bench Answer
  | ofProvider source as => do
    withObject (← source.take) fun held => keepHeadset as (HeadsetRuntime.ofProvider held.provider)
  | load config as => keepHeadset as (HeadsetRuntime.load config)
  | start headset flags => withHeadset headset fun r => do
    match ← (r.start flags).outcome with
    | .ok started =>
      modify fun b => { b with headsets := b.headsets.put headset started }
      return .ok .nothing
    | .error failure => return .failed failure
  | version headset => withHeadset headset fun r => do
    return .ofText (← r.versionText)
  | state headset => withHeadset headset fun r => return .headset r
  | shutdown headset => withHeadset headset fun r => do
    let r ← r.shutdown
    modify fun b => { b with headsets := b.headsets.put headset r }
    return .flag r.isStarted
  | drop headset => withHeadset headset fun r => do
    modify fun b => { b with headsets := b.headsets.erase headset }
    r.drop
    return .done

end HeadsetCommand

end NativeBinding.Scenario
