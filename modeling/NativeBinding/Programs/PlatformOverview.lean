import NativeBinding.Programs.Console

/-! A program that prints the OpenCL platforms and what each of them supports. -/
namespace NativeBinding.Programs

open OpenCL

/-- Tags as a list of quoted texts. -/
def tagList (s : CapabilitySet) : String :=
  (Text.Outline.ofList (s.tags.map fun tag => .leaf (Text.quote tag))).inline

/-- What there is of a feature on a platform. -/
def featureState (c : Capabilities) (tag : String) : String :=
  match c.contains tag, c.table? tag with
  | true, some table => s!"{table.size} functions"
  | true, none => "advertised, incomplete"
  | false, _ => "-"

def printCapabilities (c : Capabilities) : Program := do
  match c.version with
  | some v => print s!"  Parsed:  {v.major.toNat}.{v.minor.toNat}"
  | none => pure ()
  print s!"  Extensions: {c.extensions.size}"
  (Feature.all.map Feature.tag).forM fun tag =>
    print s!"    {Text.padRight 18 tag} {featureState c tag}"

/-- Prints one platform. -/
def printPlatform (s : SessionId) (index : Nat) (p : PlatformId) : Program := do
  let ask (parameter : PlatformParameter) : Attempt Desk String := do
    return (← s.platformText p parameter).getD "<unavailable>"
  print (s!"Platform {index}: " ++ (← ask .name))
  print ("  Vendor:  " ++ (← ask .vendor))
  print ("  Version: " ++ (← ask .version))
  print ("  Profile: " ++ (← ask .profile))
  match ← (s.platformCapabilities p).outcome with
  | .ok c => printCapabilities c
  | .error failure => print s!"  Capabilities unavailable: {failure.message}"
  print ""

/-- Prints what the library offers, then every platform. -/
def platformOverview (config : Config) : Program := do
  print "OpenCL Platform Info (Rust)"
  print "==========================="
  print ""
  print s!"Library: {config.openCLLibrary}"
  let owner : OwnerId := Desk.globalOwner
  let s ← owner.create config
  match (← getThe Desk).sessions s with
  | some session =>
    let strategy := Text.Outline.ofOption (session.strategy.map Strategy.outline)
    print s!"Extension lookup: {strategy.inline}"
    print s!"ICD tables: {tagList session.library.extensions}"
    print ""
  | none => pure ()
  let platforms ← s.platforms
  if platforms.isEmpty then print "No platforms installed."
  platforms.zipIdx.forM fun (p, index) => printPlatform s index p
  owner.destroy

end NativeBinding.Programs
