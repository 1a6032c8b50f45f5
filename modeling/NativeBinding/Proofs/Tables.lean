import NativeBinding.Proofs.Messages
import NativeBinding.Proofs.Resolution

/-!
Tables of functions: which of them exist, what they list, and what is said of those that are left
out. A table is read off what is answered about its names.
-/
namespace NativeBinding.OpenCL

variable {host : Host} {provider : Provider} {p : PlatformId} {w : World}
  {answer : String → Address}

theorem FunctionTable.resolveAll_answer {σ : Type} {lookup : String → Action σ Address}
    (h : ∀ name s, ((lookup name).run host s).1 = answer name) (functions : List String) (s : σ) :
    ((resolveAll lookup functions).run host s).1 =
      match functions.find? fun f => (answer f).isNull with
      | some missing => .error missing
      | none => .ok (functions.map fun f => (f, answer f)) := by
  induction functions generalizing s with
  | nil => rfl
  | cons f fs ih =>
    simp only [resolveAll, Action.run_bind, Action.run_ite, h, List.find?_cons]
    cases (answer f).isNull with
    | true => rfl
    | false =>
      have hrest := ih ((lookup f).run host s).2
      cases hmissing : fs.find? fun f => (answer f).isNull with
      | none =>
        simp only [hmissing] at hrest
        simp [hrest]
      | some missing =>
        simp only [hmissing] at hrest
        simp [hrest]

namespace Feature

/-- The first function of the feature that has no address. -/
def missing? (feature : Feature) (answer : String → Address) : Option String :=
  feature.functions.find? fun f => (answer f).isNull

/-- The table that lists the functions of the feature with their addresses. -/
def table (feature : Feature) (answer : String → Address) : FunctionTable where
  name := feature.tag
  functions := feature.functions.map fun f => (f, answer f)

theorem mem_all (feature : Feature) : feature ∈ all := by
  cases feature <;> decide

theorem tag_inj {a b : Feature} (h : a.tag = b.tag) : a = b := by
  revert h
  cases a <;> cases b <;> decide

theorem missing?_eq_none_iff {feature : Feature} :
    feature.missing? answer = none ↔ ∀ f ∈ feature.functions, answer f ≠ .null := by
  simp [missing?, ← Address.isNull_iff]

/-- The table of the feature, or the first of its functions that is missing. -/
def found (feature : Feature) (answer : String → Address) : Except String FunctionTable :=
  match feature.missing? answer with
  | some missing => .error missing
  | none => .ok (feature.table answer)

theorem resolve_answer {lookup : String → Action World Address}
    (h : ∀ name w, ((lookup name).run host w).1 = answer name) (feature : Feature) (w : World) :
    ((feature.resolve lookup).run host w).1 = feature.found answer := by
  have hall := FunctionTable.resolveAll_answer h feature.functions w
  unfold resolve FunctionTable.resolve found missing?
  rw [Action.run_bind, hall]
  cases feature.functions.find? fun f => (answer f).isNull <;> rfl

/-- Among tables of features, that of a tag is the one of the feature with this tag. -/
theorem find?_table {features : List Feature} (feature : Feature) :
    ((features.map fun f => f.table answer).find? fun t => t.name = feature.tag) =
      if feature ∈ features then some (feature.table answer) else none := by
  induction features with
  | nil => rfl
  | cons f fs ih =>
    rw [List.map_cons, List.find?_cons, ih]
    by_cases hf : f = feature
    · simp [hf, table]
    · have htag : f.tag ≠ feature.tag := fun h => hf (tag_inj h)
      simp [table, htag, Ne.symm hf]

theorem find?_table_of_unknown {features : List Feature} {tag : String}
    (h : ∀ feature : Feature, feature.tag ≠ tag) :
    ((features.map fun f => f.table answer).find? fun t => t.name = tag) = none := by
  rw [List.find?_eq_none]
  intro t ht
  obtain ⟨f, -, rfl⟩ := List.mem_map.mp ht
  simp [table, h f]

end Feature

/-- What is said of an advertised extension without one of its functions. -/
def incompleteText (extension missing : String) : String :=
  s!"[CL] {extension} was reported as available but an entry point is " ++
    s!"missing ({missing})."

namespace CapabilitySet

/-- True if the set advertises the feature and all its functions have addresses. -/
def admits (s : CapabilitySet) (answer : String → Address) (feature : Feature) : Bool :=
  s.contains feature.tag && (feature.missing? answer).isNone

/-- What is said of a feature: nothing, unless the set advertises it and a function is missing. -/
def complaint? (s : CapabilitySet) (answer : String → Address) (feature : Feature) :
    Option (LogLevel × String) :=
  if s.contains feature.tag then
    (feature.missing? answer).map fun missing => (.warning, incompleteText feature.tag missing)
  else none

variable {s : CapabilitySet}

theorem admits_iff {feature : Feature} :
    s.admits answer feature = true ↔
      s.contains feature.tag = true ∧ ∀ f ∈ feature.functions, answer f ≠ .null := by
  rw [admits, Bool.and_eq_true, Option.isNone_iff_eq_none, Feature.missing?_eq_none_iff]

theorem gate_answer (feature : Feature) (w : World) :
    ((s.gate feature.tag (feature.found answer)).run host w).1 =
      if s.admits answer feature then some (feature.table answer) else none := by
  unfold gate
  by_cases hadvertised : s.contains feature.tag = true
  · cases hmissing : feature.missing? answer <;>
      simp [hadvertised, admits, Feature.found, hmissing]
  · simp [hadvertised, admits]

theorem gate_saying (source : Option Serial) (s : CapabilitySet) (answer : String → Address)
    (feature : Feature) (host : Host) (w : World) :
    Saying source (s.complaint? answer feature).toList w
      ((s.gate feature.tag (feature.found answer)).run host w).2 := by
  have hquiet := Saying.refl source w
  unfold gate complaint?
  by_cases hadvertised : s.contains feature.tag = true
  · cases hmissing : feature.missing? answer with
    | none => simpa [hadvertised, Feature.found, hmissing] using hquiet
    | some missing =>
      have hlog := log_saying source .warning (incompleteText feature.tag missing) host w
      simpa [hadvertised, Feature.found, hmissing, incompleteText] using hlog
  · simpa [hadvertised] using hquiet

end CapabilitySet

namespace Capabilities

/-- What a name resolves to for a platform: to what the platform exposes under it, or else to what
the provider answers. -/
def exposed (host : Host) (provider : Provider) (p : PlatformId) (name : String) : Address :=
  (provider.platformAnswer host p name).orElse (provider.answer host name)

variable (host : Host) (provider : Provider) (p : PlatformId)

theorem platformAddress_answer (name : String) (w : World) :
    ((platformAddress provider p name).run host w).1 = exposed host provider p name := by
  simp only [platformAddress, exposed, Action.run_bind, Action.run_ite, Address.orElse,
    Provider.addressFor_answer]
  split
  · exact provider.address_answer host _ name
  · rfl

theorem platformTables_answer (s : CapabilitySet) (features : List Feature) (w : World) :
    ((platformTables provider p s features).run host w).1 =
      (features.filter (s.admits (exposed host provider p))).map
        fun f => f.table (exposed host provider p) := by
  induction features generalizing w with
  | nil => rfl
  | cons feature features ih =>
    have hfound := feature.resolve_answer (platformAddress_answer host provider p) w
    simp only [platformTables, Action.run_bind, Action.run_pure, hfound, ih,
      CapabilitySet.gate_answer, List.filter_cons]
    by_cases hadmits : s.admits (exposed host provider p) feature = true
    · simp [hadmits]
    · simp [hadmits]

/-- Each advertised feature that is incomplete is complained of once. -/
theorem platformTables_saying (s : CapabilitySet) (features : List Feature) (w : World) :
    Saying provider.root (features.filterMap (s.complaint? (exposed host provider p))) w
      ((platformTables provider p s features).run host w).2 := by
  induction features generalizing w with
  | nil => exact Saying.refl provider.root w
  | cons feature features ih =>
    have hfound := feature.resolve_answer (platformAddress_answer host provider p) w
    have hqueries : Querying provider.root w ((feature.resolve _).run host w).2 :=
      FunctionTable.resolve_within (platformAddress_queries provider p) _ _ host w
    have hgate := s.gate_saying provider.root (exposed host provider p) feature host
      ((feature.resolve (platformAddress provider p)).run host w).2
    have hcons : (feature :: features).filterMap (s.complaint? (exposed host provider p)) =
        (s.complaint? (exposed host provider p) feature).toList ++
          features.filterMap (s.complaint? (exposed host provider p)) := by
      cases hsaid : s.complaint? (exposed host provider p) feature <;> simp [hsaid]
    rw [hcons]
    simp only [platformTables, Action.run_bind, Action.run_pure, hfound]
    exact (hgate.after_queries hqueries).trans (ih _)

/-- The names of extensions that the driver reports for a platform; none if it cannot tell. -/
def extensionText (host : Host) (provider : Provider) (p : PlatformId) : String :=
  ((provider.entryAnswer host .platformInfo).bind fun e =>
    reportedText host e p .extensions).getD ""

/-- What a platform can do if this is its version. -/
def ofVersion (host : Host) (provider : Provider) (p : PlatformId) (v : Version) : Capabilities :=
  let extensions := CapabilitySet.build v (extensionText host provider p)
  { version := some v
    extensions
    tables := (Feature.all.filter (extensions.admits (exposed host provider p))).map
      fun f => f.table (exposed host provider p) }

theorem ofPlatform_answer (w : World) :
    ((ofPlatform provider p).run host w).1 =
      match provider.entryAnswer host .platformInfo with
      | none => .error (.missingCoreFunction "clGetPlatformInfo")
      | some e =>
        match reportedText host e p .version with
        | none => .error (.platformQuery "CL_PLATFORM_VERSION")
        | some text => (Version.parse text versionWord).map (ofVersion host provider p) := by
  simp only [ofPlatform, Attempt.run_bind_fst, Provider.requireEntry_answer]
  cases hentry : provider.entryAnswer host .platformInfo with
  | none => rfl
  | some e =>
    simp only [Attempt.run_liftM, platformText_answer]
    cases reportedText host e p .version with
    | none => rfl
    | some text =>
      cases hv : Version.parse text versionWord with
      | error failure => simp [hv, Except.map]
      | ok v =>
        simp only [hv, Except.map, ofVersion, extensionText, hentry, Option.bind_some,
          Attempt.run_bind_fst, Attempt.run_liftM, platformText_answer, platformTables_answer,
          Attempt.run_pure]

theorem ofPlatform_ok_iff {c : Capabilities} :
    ((ofPlatform provider p).run host w).1 = .ok c ↔
      ∃ text v, versionText? host provider p = some text ∧
        Version.parse text versionWord = .ok v ∧ c = ofVersion host provider p v := by
  rw [ofPlatform_answer, versionText?]
  cases provider.entryAnswer host .platformInfo with
  | none => simp
  | some e =>
    cases htext : reportedText host e p .version with
    | none => simp [htext]
    | some text =>
      cases hv : Version.parse text versionWord <;> simp [htext, hv, Except.map, eq_comm]

/-- A platform whose version can be read is only queried before its tables are worked out. -/
theorem ofPlatform_queries {text : String} {v : Version}
    (htext : versionText? host provider p = some text)
    (hv : Version.parse text versionWord = .ok v) (w : World) :
    ∃ w₁, Querying provider.root w w₁ ∧ ((ofPlatform provider p).run host w).2 =
      ((platformTables provider p (ofVersion host provider p v).extensions Feature.all).run
        host w₁).2 := by
  obtain ⟨e, hentry, htext⟩ := Option.bind_eq_some_iff.mp htext
  have hrequired : ((provider.requireEntry .platformInfo).run host w).1 = .ok e := by
    rw [Provider.requireEntry_answer, hentry]
  have hnames : extensionText host provider p = (reportedText host e p .extensions).getD "" := by
    rw [extensionText, hentry, Option.bind_some]
  have hentry_quiet := provider.requireEntry_queries .platformInfo host w
  rw [ofPlatform, Attempt.run_bind_of_ok host hrequired]
  generalize ((provider.requireEntry .platformInfo).run host w).2 = w₁ at hentry_quiet
  have hversion_quiet : Querying provider.root w₁ _ :=
    platformText_queries (some e) p .version host w₁
  have hnames_quiet : Querying provider.root _ _ := platformText_queries (some e) p .extensions host
    ((platformText (some e) p .version).run host w₁).2
  refine ⟨_, IsTrans.trans _ _ _ hentry_quiet (IsTrans.trans _ _ _ hversion_quiet hnames_quiet), ?_⟩
  simp only [Attempt.run_bind, Attempt.run_liftM, platformText_answer, htext, hv, ofVersion, hnames,
    Attempt.run_pure]

/-- Nothing else is said when the capabilities of a platform are worked out. -/
theorem ofPlatform_saying {c : Capabilities} (h : ((ofPlatform provider p).run host w).1 = .ok c) :
    Saying provider.root
      (Feature.all.filterMap (c.extensions.complaint? (exposed host provider p))) w
      ((ofPlatform provider p).run host w).2 := by
  obtain ⟨text, v, htext, hv, rfl⟩ := (ofPlatform_ok_iff host provider p).mp h
  obtain ⟨w₁, hqueries, hrun⟩ := ofPlatform_queries host provider p htext hv w
  rw [hrun]
  exact (platformTables_saying host provider p _ Feature.all w₁).after_queries hqueries

theorem table?_ofVersion (v : Version) (feature : Feature) :
    (ofVersion host provider p v).table? feature.tag =
      if (ofVersion host provider p v).extensions.admits (exposed host provider p) feature then
        some (feature.table (exposed host provider p))
      else none := by
  by_cases hadmits : (CapabilitySet.build v (extensionText host provider p)).admits
      (exposed host provider p) feature = true <;>
    simp [ofVersion, table?, feature.find?_table, feature.mem_all, hadmits]

/-- What a platform's capabilities are, by the answers of the provider and of the driver, and what
is said while they are worked out. -/
structure Describes (c : Capabilities) (w w' : World) : Prop where
  /-- The set is that of the version and of the extensions that the driver reports. -/
  extensions : ∃ text v, versionText? host provider p = some text ∧
    Version.parse text versionWord = .ok v ∧ c.version = some v ∧
      c.extensions = .build v (extensionText host provider p)
  /-- A feature has a table if it is advertised and complete. -/
  table_isSome : ∀ feature : Feature, (c.table? feature.tag).isSome ↔
    c.contains feature.tag = true ∧ ∀ f ∈ feature.functions, exposed host provider p f ≠ .null
  /-- The table lists all functions of the feature in order, each with what it resolves to. -/
  table_lists : ∀ (feature : Feature) t, c.table? feature.tag = some t → t.name = feature.tag ∧
    t.functions = feature.functions.map (fun f => (f, exposed host provider p f)) ∧
      ∀ f ∈ t.functions, f.2 ≠ .null
  /-- There are no other tables. -/
  table_unknown : ∀ tag, (∀ feature : Feature, feature.tag ≠ tag) → c.table? tag = none
  /-- One warning is given of each feature that is advertised but incomplete, with the first
  function that is missing. Apart from these, names are looked up and the driver is called. -/
  said : Saying provider.root
    (Feature.all.filterMap fun feature =>
      if c.contains feature.tag then
        (feature.functions.find? fun f => (exposed host provider p f).isNull).map fun missing =>
          (.warning, incompleteText feature.tag missing)
      else none)
    w w'

/-- The capabilities of a platform follow from what the driver reports and from what the names of
the known functions resolve to. -/
theorem ofPlatform_describes {c : Capabilities}
    (h : ((ofPlatform provider p).run host w).1 = .ok c) :
    Describes host provider p c w ((ofPlatform provider p).run host w).2 := by
  have hsaid := ofPlatform_saying host provider p h
  obtain ⟨text, v, htext, hv, rfl⟩ := (ofPlatform_ok_iff host provider p).mp h
  constructor
  case extensions => exact ⟨text, v, htext, hv, rfl, rfl⟩
  case table_isSome =>
    intro feature
    rw [table?_ofVersion, Option.isSome_ite, CapabilitySet.admits_iff]
    rfl
  case table_lists =>
    intro feature t ht
    rw [table?_ofVersion] at ht
    obtain ⟨hadmits, htable⟩ := Option.ite_none_right_eq_some.mp ht
    obtain rfl := Option.some.inj htable
    refine ⟨rfl, rfl, fun entry hentry => ?_⟩
    obtain ⟨f, hf, rfl⟩ := List.mem_map.mp hentry
    exact (CapabilitySet.admits_iff.mp hadmits).2 f hf
  case table_unknown => exact fun tag htag => Feature.find?_table_of_unknown htag
  case said => exact hsaid

/-- A driver that advertises sharing without a function for it. -/
theorem ofPlatform_describes_without_sharing :
    let library : NativeLibrary := {
      symbol := fun name =>
        if name = "clGetPlatformInfo" then .entry 0 .platformInfo
        else if name ∈ Feature.core10.functions then .ofWord 1
        else .null
      info := fun _ parameter =>
        .ofText (if parameter = .version then "OpenCL 1.0" else "cl_khr_gl_sharing") }
    let host := Host.ofLists [library] []
    let provider := Provider.supplied { number := 0, library := 0, isFull := true }
    let w := World.initial host none
    ∃ c, ((ofPlatform provider ⟨7⟩).run host w).1 = .ok c ∧
      Describes host provider ⟨7⟩ c w ((ofPlatform provider ⟨7⟩).run host w).2 := by
  intro library host provider w
  have htext : versionText? host provider ⟨7⟩ = some "OpenCL 1.0" := rfl
  have hv : Version.parse "OpenCL 1.0" versionWord = .ok { major := 1, minor := 0 } := rfl
  have hok := (ofPlatform_ok_iff (w := w) host provider ⟨7⟩).mpr ⟨_, _, htext, hv, rfl⟩
  exact ⟨_, hok, ofPlatform_describes host provider ⟨7⟩ hok⟩

end Capabilities

end NativeBinding.OpenCL
