import NativeBinding.Proofs.Tables
import NativeBinding.Proofs.VersionGrammar

/-!
How the capabilities of a platform fail by what the driver answers about its version: a query that
is refused can be tried again, a text that is no version is fatal.
-/
namespace NativeBinding

namespace InfoReport

/-- The driver refuses the size, or the bytes if it has any. -/
def Refuses (report : InfoReport) : Prop :=
  report.sizeStatus ≠ Status.success ∨
    report.size.bytes ≠ 0 ∧ report.dataStatus ≠ Status.success

/-- The driver answers with a text: that of the bytes that it stores, or the empty one if it has
none. -/
def Tells (report : InfoReport) (text : String) : Prop :=
  report.sizeStatus = Status.success ∧
    (report.size.bytes = 0 ∧ text = "" ∨
      report.size.bytes ≠ 0 ∧ report.dataStatus = Status.success ∧
        text = Text.Utf8.nativeText (report.bytes.take report.size.bytes))

/-- A driver that is asked either refuses or answers with one text. -/
theorem refuses_or_tells (report : InfoReport) :
    report.Refuses ∨ ∃ text, report.Tells text ∧ ∀ text', report.Tells text' → text' = text := by
  by_cases hsize : report.sizeStatus = Status.success
  · by_cases hzero : report.size.bytes = 0
    · refine .inr ⟨"", ⟨hsize, .inl ⟨hzero, rfl⟩⟩, ?_⟩
      rintro text' ⟨-, ⟨-, htext⟩ | ⟨hsome, -⟩⟩
      · exact htext
      · exact absurd hzero hsome
    · by_cases hdata : report.dataStatus = Status.success
      · refine .inr ⟨_, ⟨hsize, .inr ⟨hzero, hdata, rfl⟩⟩, ?_⟩
        rintro text' ⟨-, ⟨hnone, -⟩ | ⟨-, -, htext⟩⟩
        · exact absurd hnone hzero
        · exact htext
      · exact .inl (.inr ⟨hzero, hdata⟩)
  · exact .inl (.inl hsize)

theorem Tells.not_refuses {report : InfoReport} {text : String} (h : report.Tells text) :
    ¬ report.Refuses := by
  obtain ⟨hsize, htold⟩ := h
  rintro (hrefused | ⟨hsome, hrefused⟩)
  · exact hrefused hsize
  · rcases htold with ⟨hzero, -⟩ | ⟨-, hdata, -⟩
    · exact hsome hzero
    · exact hrefused hdata

end InfoReport

namespace OpenCL

variable {host : Host} {e : Entry .platformInfo} {p : PlatformId} {parameter : PlatformParameter}

theorem reportedText_of_refuses (h : ((host.library e.library).info p parameter).Refuses) :
    reportedText host e p parameter = none := by
  unfold reportedText
  rcases h with hsize | ⟨hsome, hdata⟩
  · simp [hsize]
  · simp [hsome, hdata]

theorem reportedText_of_tells {text : String}
    (h : ((host.library e.library).info p parameter).Tells text) :
    reportedText host e p parameter = some text := by
  unfold reportedText
  obtain ⟨hsize, ⟨hzero, rfl⟩ | ⟨hsome, hdata, rfl⟩⟩ := h
  · simp [hsize, hzero]
  · simp [hsize, hsome, hdata]

namespace Capabilities

variable {provider : Provider} {w : World}

theorem ofPlatform_of_refuses (hentry : provider.entryAnswer host .platformInfo = some e)
    (h : ((host.library e.library).info p .version).Refuses) :
    ((ofPlatform provider p).run host w).1 = .error (.platformQuery "CL_PLATFORM_VERSION") := by
  rw [ofPlatform_answer, hentry]
  simp only [reportedText_of_refuses h]

theorem ofPlatform_of_tells {text : String}
    (hentry : provider.entryAnswer host .platformInfo = some e)
    (h : ((host.library e.library).info p .version).Tells text) :
    ((ofPlatform provider p).run host w).1 =
      (Version.parse text versionWord).map (ofVersion host provider p) := by
  rw [ofPlatform_answer, hentry]
  simp only [reportedText_of_tells h]

/-- A text is the failure if and only if it is no sentence of the grammar. -/
theorem ofVersion_eq_error_iff {text : String} {failure : Failure} :
    (Version.parse text versionWord).map (ofVersion host provider p) = .error failure ↔
      failure = .versionParse text ∧
        ¬ ∃ v, Version.Reports text.toList versionWord.toList v := by
  rw [← Version.parse_eq_error_iff]
  cases Version.parse text versionWord <;> simp [Except.map]

/-- How the capabilities of a platform fail, by what the driver answers about the version. -/
structure FailsBy (report : InfoReport) (outcome : Except Failure Capabilities) : Prop where
  /-- The query is to blame if and only if the driver refused it. -/
  query : outcome = .error (.platformQuery "CL_PLATFORM_VERSION") ↔ report.Refuses
  /-- A text is to blame if and only if the driver answered with it and it is not a version. -/
  parse : ∀ text, outcome = .error (.versionParse text) ↔
    report.Tells text ∧ ¬ ∃ v, Version.Reports text.toList "OpenCL".toList v
  /-- Nothing else is, and only the text is fatal. -/
  others : ∀ failure, outcome = .error failure →
    failure = .platformQuery "CL_PLATFORM_VERSION" ∧ failure.isFatal = false ∨
      ∃ text, failure = .versionParse text ∧ failure.isFatal = true

/-- With a driver to ask, the capabilities of a platform fail by its two answers about the version.
No bytes are an answer too: the empty text. -/
theorem ofPlatform_failsBy (hentry : provider.entryAnswer host .platformInfo = some e) :
    FailsBy ((host.library e.library).info p .version)
      ((ofPlatform provider p).run host w).1 := by
  rcases InfoReport.refuses_or_tells ((host.library e.library).info p .version) with
    hrefuses | ⟨told, htold, hsole⟩
  · rw [ofPlatform_of_refuses hentry hrefuses]
    constructor
    case query => exact iff_of_true rfl hrefuses
    case parse =>
      intro text
      exact iff_of_false (by simp) fun h => h.1.not_refuses hrefuses
    case others =>
      rintro _ ⟨⟩
      exact .inl ⟨rfl, rfl⟩
  · rw [ofPlatform_of_tells hentry htold]
    constructor
    case query => simp [ofVersion_eq_error_iff, htold.not_refuses]
    case parse =>
      intro text
      rw [ofVersion_eq_error_iff, Failure.versionParse.injEq]
      constructor
      · rintro ⟨rfl, hnone⟩
        exact ⟨htold, hnone⟩
      · rintro ⟨htells, hnone⟩
        obtain rfl := hsole text htells
        exact ⟨rfl, hnone⟩
    case others =>
      intro failure hfailure
      obtain ⟨rfl, -⟩ := ofVersion_eq_error_iff.mp hfailure
      exact .inr ⟨told, rfl, rfl⟩

/-- A host with one library that has all functions, and whose driver answers this about every
parameter. -/
def hostOfReport (report : InfoReport) : Host :=
  Host.ofLists [{
    symbol := fun name => (NativeFunction.ofName? name).elim .null fun f => .entry 0 f
    info := fun _ _ => report }] []

/-- A driver that knows the size and refuses the bytes. -/
theorem ofPlatform_failsBy_refused_bytes :
    let report : InfoReport := { size := .ofLength 11, dataStatus := Status.invalidValue }
    let host := hostOfReport report
    let provider := Provider.supplied { number := 0, library := 0, isFull := true }
    provider.entryAnswer host .platformInfo = some ⟨0⟩ ∧
      FailsBy report ((ofPlatform provider ⟨7⟩).run host (World.initial host none)).1 := by
  intro report host provider
  have hentry : provider.entryAnswer host .platformInfo = some ⟨0⟩ := rfl
  exact ⟨hentry, ofPlatform_failsBy hentry⟩

/-- A driver that has no value for the version. The query should be to blame then, as when it is
refused, but the empty text is, and that is fatal. -/
theorem ofPlatform_of_no_value :
    let report : InfoReport := { size := .zero }
    let host := hostOfReport report
    let provider := Provider.supplied { number := 0, library := 0, isFull := true }
    let outcome := ((ofPlatform provider ⟨7⟩).run host (World.initial host none)).1
    outcome = .error (.versionParse "") ∧
      ¬ (outcome = .error (.platformQuery "CL_PLATFORM_VERSION") ↔
        report.sizeStatus ≠ Status.success ∨ report.size.bytes = 0 ∨
          report.dataStatus ≠ Status.success) := by
  intro report host provider outcome
  have hentry : provider.entryAnswer host .platformInfo = some ⟨0⟩ := rfl
  have hempty : report.Tells "" := ⟨rfl, .inl ⟨rfl, rfl⟩⟩
  have houtcome : outcome = .error (.versionParse "") := ofPlatform_of_tells hentry hempty
  refine ⟨houtcome, fun hclaim => ?_⟩
  rw [houtcome] at hclaim
  cases hclaim.mpr (.inr (.inl rfl))

end Capabilities

end OpenCL

end NativeBinding
