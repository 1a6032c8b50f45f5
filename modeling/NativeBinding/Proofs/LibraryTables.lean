import NativeBinding.Proofs.Tables

/-!
The tables of a library beside those of its platforms. What a library resolves, each of its
platforms resolves; a platform that the strategy is bound to resolves nothing else.
-/
namespace NativeBinding.OpenCL

variable {host : Host} {provider : Provider} {p : PlatformId} {w : World}
  {answer : String → Address}

namespace Capabilities

theorem libraryTables_ok {features : List Feature}
    (h : .core10 ∈ features → Feature.core10.missing? (provider.answer host) = none) (w : World) :
    ((libraryTables provider features).run host w).1 =
      .ok ((features.filter fun f => (f.missing? (provider.answer host)).isNone).map
        fun f => f.table (provider.answer host)) := by
  induction features generalizing w with
  | nil => rfl
  | cons feature features ih =>
    have hfound := feature.resolve_answer (fun name w => provider.address_answer host w name) w
    have hrest := ih fun hmem => h (List.mem_cons_of_mem _ hmem)
    simp only [libraryTables, Attempt.run_bind_fst, Attempt.run_liftM, hfound, Feature.found]
    cases hmissing : feature.missing? (provider.answer host) with
    | none => simp [hmissing, Attempt.run_bind_fst, hrest]
    | some missing =>
      have hoptional : feature ≠ .core10 := by
        rintro rfl
        simp [h (by simp)] at hmissing
      simp [hmissing, hoptional, hrest]

theorem libraryTables_missing {features : List Feature} {missing : String}
    (hmem : .core10 ∈ features) (h : Feature.core10.missing? (provider.answer host) = some missing)
    (w : World) :
    ((libraryTables provider features).run host w).1 =
      .error (.missingCoreFunction missing) := by
  induction features generalizing w with
  | nil => simp at hmem
  | cons feature features ih =>
    have hfound := feature.resolve_answer (fun name w => provider.address_answer host w name) w
    simp only [libraryTables, Attempt.run_bind_fst, Attempt.run_liftM, hfound, Feature.found]
    by_cases hcore : feature = .core10
    · simp [hcore, h]
    · have hrest := ih ((List.mem_cons.mp hmem).resolve_left (Ne.symm hcore))
      cases feature.missing? (provider.answer host) with
      | none => simp [Attempt.run_bind_fst, hrest]
      | some _ => simp [hcore, hrest]

/-- What a library can do if its names resolve to these addresses. -/
def ofAnswers (answer : String → Address) : Capabilities :=
  let tables := (Feature.all.filter fun f => (f.missing? answer).isNone).map fun f => f.table answer
  { version := none
    extensions := .ofList (tables.map FunctionTable.name)
    tables }

theorem ofLibrary_answer (host : Host) (provider : Provider) (w : World) :
    ((ofLibrary provider).run host w).1 =
      match Feature.core10.missing? (provider.answer host) with
      | some missing => .error (.missingCoreFunction missing)
      | none => .ok (ofAnswers (provider.answer host)) := by
  rw [ofLibrary, Attempt.run_bind_fst]
  cases hmissing : Feature.core10.missing? (provider.answer host) with
  | none =>
    rw [libraryTables_ok fun _ => hmissing]
    rfl
  | some missing => rw [libraryTables_missing (Feature.mem_all _) hmissing]

theorem table?_ofAnswers (feature : Feature) :
    (ofAnswers answer).table? feature.tag =
      if feature.missing? answer = none then some (feature.table answer) else none := by
  by_cases hmissing : feature.missing? answer = none <;>
    simp [ofAnswers, table?, feature.find?_table, feature.mem_all, hmissing]

theorem ofLibrary_ok_iff {c : Capabilities} :
    ((ofLibrary provider).run host w).1 = .ok c ↔
      Feature.core10.missing? (provider.answer host) = none ∧
        c = ofAnswers (provider.answer host) := by
  rw [ofLibrary_answer]
  cases Feature.core10.missing? (provider.answer host) <;> simp [eq_comm]

/-- A name that the library resolves, the platform resolves too. -/
theorem exposed_ne_null {name : String} (h : provider.answer host name ≠ .null) :
    exposed host provider p name ≠ .null := by
  rw [exposed, Address.orElse]
  split
  · exact h
  · rename_i hnull
    exact fun hplatform => hnull (Address.isNull_iff.mpr hplatform)

/-- The platform that the strategy is bound to exposes what the library does. -/
theorem exposed_of_perPlatform {r : Resolver} {inner : Provider} (h : r.strategy = .perPlatform p) :
    exposed host (.resolver r inner) p = (Provider.resolver r inner).answer host := by
  funext name
  simp only [exposed, Provider.platformAnswer, Provider.answer, Resolver.strategyAnswer, h]
  cases r.accepts name with
  | false => rfl
  | true =>
    cases hnull : (r.platformAnswer host p name).isNull <;>
      simp [Address.orElse, hnull]

end Capabilities

namespace Feature

theorem blank_notMem_tag (feature : Feature) : ' ' ∉ feature.tag.toList := by
  cases feature <;> decide

/-- What is said of a feature names it: no tag holds a blank, so that the tag ends at the first. -/
theorem incompleteText_inj {a b : Feature} {missing missing' : String}
    (h : incompleteText a.tag missing = incompleteText b.tag missing') : a = b := by
  have hshape : ∀ extension missing, ∃ rest, (incompleteText extension missing).toList =
      "[CL] ".toList ++ (extension.toList ++ ' ' :: rest) := by
    intro extension missing
    simp [incompleteText, toString]
  have hword : ∀ (f : Feature) (rest : List Char),
      (f.tag.toList ++ ' ' :: rest).takeWhile (· != ' ') = f.tag.toList := by
    intro f rest
    rw [List.takeWhile_append_of_pos]
    · simp
    · intro c hc
      have hne : c ≠ ' ' := fun hblank => f.blank_notMem_tag (hblank ▸ hc)
      simpa using hne
  obtain ⟨rest, ha⟩ := hshape a.tag missing
  obtain ⟨rest', hb⟩ := hshape b.tag missing'
  rw [h, hb] at ha
  have hwords := congrArg (List.takeWhile (· != ' ')) (List.append_cancel_left ha)
  rw [hword, hword] at hwords
  exact (tag_inj (String.toList_inj.mp hwords)).symm

end Feature

/-- A complete feature is not complained of. -/
theorem CapabilitySet.complaint?_of_complete {s : CapabilitySet} {feature : Feature}
    (h : feature.missing? answer = none) (missing : String) :
    (.warning, incompleteText feature.tag missing) ∉
      Feature.all.filterMap (s.complaint? answer) := by
  intro hmem
  obtain ⟨other, -, hsaid⟩ := List.mem_filterMap.mp hmem
  obtain ⟨-, hsaid⟩ := Option.ite_none_right_eq_some.mp hsaid
  obtain ⟨missing', hmissing, htext⟩ := Option.map_eq_some_iff.mp hsaid
  have hsame := Feature.incompleteText_inj (Prod.mk.inj htext).2
  rw [hsame, h] at hmissing
  cases hmissing

namespace Capabilities

/-- How the table of a tag fares from a library to a platform, whose capabilities are worked out
from one world to the other. -/
structure KeepsTable (strategy : Strategy) (p : PlatformId) (library platform : Capabilities)
    (tag : String) (w w' : World) : Prop where
  /-- If the library has it, so has the platform, and it is not reported as incomplete. -/
  kept : (library.table? tag).isSome → (platform.table? tag).isSome ∧
    ∃ source said, Saying source said w w' ∧
      ∀ missing, (.warning, incompleteText tag missing) ∉ said
  /-- If the strategy is bound to the platform, both have it with the same addresses, or neither
  has it. -/
  agrees : strategy = .perPlatform p → platform.table? tag = library.table? tag

/-- Of what its set advertises, a platform has every table that its library has. -/
theorem ofPlatform_keepsTable {r : Resolver} {inner : Provider} {library platform : Capabilities}
    {w' : World} {tag : String}
    (hlibrary : ((ofLibrary (.resolver r inner)).run host w').1 = .ok library)
    (hplatform : ((ofPlatform (.resolver r inner) p).run host w).1 = .ok platform)
    (htag : platform.contains tag = true) :
    KeepsTable r.strategy p library platform tag w
      ((ofPlatform (.resolver r inner) p).run host w).2 := by
  have hsaid := ofPlatform_saying host _ p hplatform
  obtain ⟨-, rfl⟩ := ofLibrary_ok_iff.mp hlibrary
  obtain ⟨-, v, -, -, rfl⟩ := (ofPlatform_ok_iff host _ p).mp hplatform
  by_cases hknown : ∃ feature : Feature, feature.tag = tag
  · obtain ⟨feature, rfl⟩ := hknown
    constructor
    case kept =>
      intro htable
      rw [table?_ofAnswers, Option.isSome_ite, Feature.missing?_eq_none_iff] at htable
      have hcomplete : ∀ f ∈ feature.functions, exposed host (.resolver r inner) p f ≠ .null :=
        fun f hf => exposed_ne_null (htable f hf)
      rw [table?_ofVersion, if_pos (CapabilitySet.admits_iff.mpr ⟨htag, hcomplete⟩)]
      exact ⟨rfl, _, _, hsaid,
        CapabilitySet.complaint?_of_complete (Feature.missing?_eq_none_iff.mpr hcomplete)⟩
    case agrees =>
      intro hstrategy
      rw [table?_ofAnswers, table?_ofVersion, exposed_of_perPlatform hstrategy]
      refine ite_congr (propext ?_) (fun _ => rfl) fun _ => rfl
      rw [CapabilitySet.admits_iff, Feature.missing?_eq_none_iff]
      exact and_iff_right htag
  · have hunknown : ∀ feature : Feature, feature.tag ≠ tag := fun feature h => hknown ⟨feature, h⟩
    have hlibrary_none : (ofAnswers ((Provider.resolver r inner).answer host)).table? tag = none :=
      Feature.find?_table_of_unknown hunknown
    have hplatform_none : (ofVersion host (.resolver r inner) p v).table? tag = none :=
      Feature.find?_table_of_unknown hunknown
    constructor
    case kept =>
      intro htable
      simp [hlibrary_none] at htable
    case agrees => exact fun _ => hplatform_none.trans hlibrary_none.symm

/-- A platform that the strategy is bound to, with an address of its own for one function. -/
theorem ofPlatform_keepsTable_bound :
    let library : NativeLibrary := {
      symbol := fun name => if name = "clGetPlatformInfo" then .entry 0 .platformInfo else .ofWord 1
      platformExtension := fun _ name => if name = "clFinish" then .ofWord 2 else .null
      info := fun _ parameter => .ofText (if parameter = .version then "OpenCL 1.0" else "") }
    let host := Host.ofLists [library] []
    let w := World.initial host none
    let inner := Provider.supplied { number := 0, library := 0, isFull := true }
    let r : Resolver := { generic := none, perPlatform := some ⟨0⟩, strategy := .perPlatform ⟨7⟩ }
    ∃ library platform, ((ofLibrary (.resolver r inner)).run host w).1 = .ok library ∧
      ((ofPlatform (.resolver r inner) ⟨7⟩).run host w).1 = .ok platform ∧
      platform.contains "OpenCL10" = true ∧
      KeepsTable r.strategy ⟨7⟩ library platform "OpenCL10" w
        ((ofPlatform (.resolver r inner) ⟨7⟩).run host w).2 := by
  intro library host w inner r
  have hcomplete : Feature.core10.missing? ((Provider.resolver r inner).answer host) = none := by
    decide +kernel
  have htext : versionText? host (.resolver r inner) ⟨7⟩ = some "OpenCL 1.0" := rfl
  have hv : Version.parse "OpenCL 1.0" versionWord = .ok { major := 1, minor := 0 } := rfl
  have hlibrary := ofLibrary_ok_iff (w := w).mpr ⟨hcomplete, rfl⟩
  have hplatform := (ofPlatform_ok_iff (w := w) host (.resolver r inner) ⟨7⟩).mpr
    ⟨_, _, htext, hv, rfl⟩
  have hnames : extensionText host (.resolver r inner) ⟨7⟩ = "" := rfl
  have hset : (CapabilitySet.build { major := 1, minor := 0 } "").contains "OpenCL10" = true := by
    decide +kernel
  have htag : (ofVersion host (.resolver r inner) ⟨7⟩ { major := 1, minor := 0 }).contains
      "OpenCL10" = true := by
    rw [contains, ofVersion, hnames, hset]
  exact ⟨_, _, hlibrary, hplatform, htag, ofPlatform_keepsTable hlibrary hplatform htag⟩

end Capabilities

end NativeBinding.OpenCL
