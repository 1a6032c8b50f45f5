import NativeBinding.Proofs.Answers

/-!
The strategy that is chosen for a provider, read off what the provider and the driver behind it
answer. A provider has a lookup unless its name is answered with null.
-/
namespace NativeBinding.OpenCL

variable (host : Host) (provider : Provider) (w : World)

/-- The first platform that a driver with one platform reports. It reports none if the call fails
or returns none; an entry of the buffer that it leaves alone stays null. -/
def firstId? (e : Entry .platformIds) : Option PlatformId :=
  let report := (host.library e.library).platforms
  if report.fetchStatus = Status.success ∧ 0 < report.returned then some (report.ids.getD 0 .null)
  else none

/-- The version that the provider's driver reports for a platform. -/
def versionText? (p : PlatformId) : Option String :=
  (provider.entryAnswer host .platformInfo).bind fun e => reportedText host e p .version

/-- There is a lookup for one platform, and the driver reports this platform as the only one. -/
def IsSole (p : PlatformId) : Prop :=
  provider.lacks host .platformExtensionAddress = false ∧
    ∃ e, provider.entryAnswer host .platformIds = some e ∧ reportedCount host e = 1 ∧
      firstId? host e = some p

/-- The only platform, and its version is 1.2 or later. -/
def IsSelected (p : PlatformId) : Prop :=
  IsSole host provider p ∧ ∃ text v, versionText? host provider p = some text ∧
    Version.parse text versionWord = .ok v ∧ v.atLeast 1 2 = true

/-- The only platform reports this text as its version, and it cannot be read as one. -/
def IsUnreadable (text : String) : Prop :=
  ∃ p, IsSole host provider p ∧ versionText? host provider p = some text ∧
    ∀ v, Version.parse text versionWord ≠ .ok v

theorem parse_error {text word : String} {failure : Failure}
    (h : Version.parse text word = .error failure) : failure = .versionParse text := by
  unfold Version.parse at h
  split at h <;> simp_all

theorem head?_reportedIds {e : Entry .platformIds} (h : reportedCount host e = 1) :
    (reportedIds host e).head? = firstId? host e := by
  unfold reportedIds firstId?
  rw [h]
  by_cases hs : (host.library e.library).platforms.fetchStatus = Status.success
  · cases hr : (host.library e.library).platforms.returned with
    | zero => simp [hs, hr]
    | succ n =>
      simp [hs, hr]
  · simp [hs]

/-- Whether the version of a platform is 1.2 or later, or what makes the question fail. -/
def judgement (p : PlatformId) : Except Failure Bool :=
  match versionText? host provider p with
  | none => .ok false
  | some text => (Version.parse text versionWord).map fun v => v.atLeast 1 2

theorem judgement_eq_true_iff (p : PlatformId) :
    judgement host provider p = .ok true ↔ ∃ text v, versionText? host provider p = some text ∧
      Version.parse text versionWord = .ok v ∧ v.atLeast 1 2 = true := by
  unfold judgement
  cases versionText? host provider p with
  | none => simp
  | some text => cases hv : Version.parse text versionWord <;> simp [hv, Except.map]

theorem judgement_eq_error_iff (p : PlatformId) (failure : Failure) :
    judgement host provider p = .error failure ↔ ∃ text, failure = .versionParse text ∧
      versionText? host provider p = some text ∧ ∀ v, Version.parse text versionWord ≠ .ok v := by
  unfold judgement
  cases versionText? host provider p with
  | none => simp
  | some text =>
    cases hv : Version.parse text versionWord with
    | error f =>
      obtain rfl := parse_error hv
      constructor
      · intro h
        simp only [hv, Except.map, Except.error.injEq] at h
        exact ⟨text, h.symm, rfl, by simp [hv]⟩
      · rintro ⟨text', rfl, htext, -⟩
        simp_all [Except.map]
    | ok v =>
      constructor
      · intro h
        simp [hv, Except.map] at h
      · rintro ⟨text', rfl, htext, hno⟩
        simp_all

theorem supports12_answer (p : PlatformId) :
    ((supports12 provider p).run host w).1 = judgement host provider p := by
  simp only [supports12, judgement, Attempt.run_bind_fst, Attempt.run_liftM,
    Provider.entryOf_answer, versionText?]
  cases provider.entryAnswer host .platformInfo with
  | none => rfl
  | some e =>
    simp only [platformText_answer, Option.bind_some]
    cases reportedText host e p .version with
    | none => rfl
    | some text => cases hv : Version.parse text versionWord <;> simp [hv, Except.map]

/-- The single platform as far as it is selected, or what makes the resolution fail. -/
def selection : Except Failure (Option PlatformId) :=
  match provider.entryAnswer host .platformIds with
  | none => .error (.missingCoreFunction "clGetPlatformIDs")
  | some e =>
    if reportedCount host e = 1 then
      match firstId? host e with
      | none => .ok none
      | some p => (judgement host provider p).map fun isLater => if isLater then some p else none
    else if provider.lacks host .extensionAddress then
      .error (.ambiguousPlatform (reportedCount host e))
    else .ok none

theorem solePlatform_answer :
    ((solePlatform provider (provider.answer host NativeFunction.extensionAddress.name)).run
      host w).1 = selection host provider := by
  have hentry : (provider.answer host NativeFunction.platformIds.name).entryOf .platformIds =
      provider.entryAnswer host .platformIds := rfl
  simp only [solePlatform, selection, Attempt.run_bind_fst, Provider.require_answer,
    Provider.isNull_answer, Provider.lacks_eq_isNone host provider .platformIds]
  cases hids : provider.entryAnswer host .platformIds with
  | none => rfl
  | some e =>
    simp only [Option.isNone_some, Bool.false_eq_true, if_false, hentry, hids, Attempt.run_liftM,
      platformCount_answer]
    by_cases hone : reportedCount host e = 1
    · have hhead := head?_reportedIds host hone
      simp only [hone, if_true, Attempt.run_bind_fst, Attempt.run_liftM, platformIds_answer]
      cases hids : reportedIds host e with
      | nil =>
        have hfirst : firstId? host e = none := by simpa [hids] using hhead.symm
        simp [hfirst]
      | cons p ps =>
        have hfirst : firstId? host e = some p := by simpa [hids] using hhead.symm
        simp only [hfirst, Attempt.run_bind_fst, supports12_answer]
        cases judgement host provider p <;> rfl
    · simp only [hone, if_false]
      cases provider.lacks host .extensionAddress <;> simp

/-- What is left where no platform is selected. -/
def withoutPlatform : Except Failure Strategy :=
  if provider.lacks host .extensionAddress then
    .error (.missingCoreFunction "clGetExtensionFunctionAddress")
  else .ok .generic

/-- The strategy for a provider, or what makes the resolution fail. -/
def chosenStrategy : Except Failure Strategy :=
  let selected :=
    if provider.lacks host .platformExtensionAddress then .ok none else selection host provider
  match selected with
  | .error failure => .error failure
  | .ok (some p) => .ok (.perPlatform p)
  | .ok none => withoutPlatform host provider

theorem chooseStrategy_answer :
    ((chooseStrategy provider (provider.answer host NativeFunction.extensionAddress.name)
      (provider.answer host NativeFunction.platformExtensionAddress.name)).run host w).1 =
        chosenStrategy host provider := by
  simp only [chooseStrategy, chosenStrategy, withoutPlatform, Attempt.run_bind_fst,
    Provider.isNull_answer]
  cases provider.lacks host .platformExtensionAddress with
  | true => cases provider.lacks host .extensionAddress <;> rfl
  | false =>
    simp only [Bool.false_eq_true, if_false, solePlatform_answer]
    rcases selection host provider with failure | _ | p <;>
      cases provider.lacks host .extensionAddress <;> rfl

/-- A provider that is released on failure does not change the outcome. -/
theorem releasedOnFailure_answer {α : Type} (x : Attempt World α) :
    ((provider.releasedOnFailure x).run host w).1 = (x.run host w).1 := by
  unfold Provider.releasedOnFailure
  rw [Attempt.run_tryCatch]
  rcases x.run host w with ⟨_ | _, w₁⟩
  · rw [Attempt.run_bind_fst]
    rfl
  · rfl

theorem resolverFor_answer :
    ((resolverFor provider).run host w).1 = (chosenStrategy host provider).map fun strategy => {
      generic := provider.entryAnswer host .extensionAddress
      perPlatform := provider.entryAnswer host .platformExtensionAddress
      strategy } := by
  simp only [resolverFor, Attempt.run_bind_fst, Attempt.run_liftM, Provider.address_answer,
    releasedOnFailure_answer, chooseStrategy_answer]
  cases chosenStrategy host provider <;> rfl

variable {host provider} in
theorem IsSole.unique {p q : PlatformId} (hp : IsSole host provider p)
    (hq : IsSole host provider q) : p = q := by
  obtain ⟨-, e, hids, -, hp⟩ := hp
  obtain ⟨-, e', hids', -, hq⟩ := hq
  obtain rfl : e = e' := Option.some.inj (hids.symm.trans hids')
  exact Option.some.inj (hp.symm.trans hq)

/-- What is chosen if there is a single platform rests on its version. -/
theorem chosenStrategy_of_isSole {p : PlatformId} (h : IsSole host provider p) :
    chosenStrategy host provider =
      match judgement host provider p with
      | .error failure => .error failure
      | .ok isLater => if isLater then .ok (.perPlatform p) else withoutPlatform host provider := by
  obtain ⟨hlookup, e, hids, hone, hfirst⟩ := h
  simp only [chosenStrategy, selection, hlookup, hids, hone, hfirst, Bool.false_eq_true, if_false,
    if_true]
  rcases judgement host provider p with failure | _ | _ <;> rfl

/-- What is chosen if there is no single platform rests on which functions the provider has, and on
the number of platforms. -/
theorem chosenStrategy_of_not_isSole (h : ∀ p, ¬ IsSole host provider p) :
    chosenStrategy host provider =
      if provider.lacks host .platformExtensionAddress then withoutPlatform host provider
      else
        match provider.entryAnswer host .platformIds with
        | none => .error (.missingCoreFunction "clGetPlatformIDs")
        | some e =>
          if reportedCount host e ≠ 1 ∧ provider.lacks host .extensionAddress = true then
            .error (.ambiguousPlatform (reportedCount host e))
          else withoutPlatform host provider := by
  unfold chosenStrategy selection
  cases hlookup : provider.lacks host .platformExtensionAddress with
  | true => rfl
  | false =>
    cases hids : provider.entryAnswer host .platformIds with
    | none => rfl
    | some e =>
      by_cases hone : reportedCount host e = 1
      · cases hfirst : firstId? host e with
        | none => simp [hone, hfirst]
        | some p => exact (h p ⟨hlookup, e, hids, hone, hfirst⟩).elim
      · cases provider.lacks host .extensionAddress <;> simp [hone]

/-- Without a single platform none is selected, and no version is read. -/
theorem chosenStrategy_cases_of_not_isSole (h : ∀ p, ¬ IsSole host provider p) :
    chosenStrategy host provider = withoutPlatform host provider ∨
      chosenStrategy host provider = .error (.missingCoreFunction "clGetPlatformIDs") ∨
      ∃ n, chosenStrategy host provider = .error (.ambiguousPlatform n) := by
  rw [chosenStrategy_of_not_isSole host provider h]
  split
  · exact .inl rfl
  · cases provider.entryAnswer host .platformIds with
    | none => exact .inr (.inl rfl)
    | some e =>
      dsimp only
      split
      · exact .inr (.inr ⟨_, rfl⟩)
      · exact .inl rfl

theorem withoutPlatform_ne_perPlatform (p : PlatformId) :
    withoutPlatform host provider ≠ .ok (.perPlatform p) := by
  unfold withoutPlatform
  split <;> simp

theorem withoutPlatform_eq_error {failure : Failure}
    (h : withoutPlatform host provider = .error failure) :
    failure = .missingCoreFunction "clGetExtensionFunctionAddress" := by
  unfold withoutPlatform at h
  split at h
  · exact (Except.error.inj h).symm
  · cases h

theorem isSelected_iff (p : PlatformId) :
    IsSelected host provider p ↔ chosenStrategy host provider = .ok (.perPlatform p) := by
  have hleft := withoutPlatform_ne_perPlatform host provider p
  rw [IsSelected, ← judgement_eq_true_iff]
  by_cases hsole : ∃ q, IsSole host provider q
  · obtain ⟨q, hq⟩ := hsole
    have hp : IsSole host provider p ↔ p = q := ⟨fun hp => hp.unique hq, fun hp => hp ▸ hq⟩
    rw [chosenStrategy_of_isSole host provider hq, hp]
    rcases hj : judgement host provider q with failure | _ | _
    · simp only [reduceCtorEq, iff_false, not_and]
      rintro rfl
      simp [hj]
    · simp only [Bool.false_eq_true, if_false, hleft, iff_false, not_and]
      rintro rfl
      simp [hj]
    · simp only [if_true, Except.ok.injEq, Strategy.perPlatform.injEq]
      constructor
      · rintro ⟨rfl, -⟩
        rfl
      · rintro rfl
        exact ⟨rfl, hj⟩
  · have hnone := not_exists.mp hsole
    refine iff_of_false (fun h => hnone p h.1) ?_
    rcases chosenStrategy_cases_of_not_isSole host provider hnone with h | h | ⟨n, h⟩ <;> rw [h]
    · exact hleft
    · simp
    · simp

theorem isUnreadable_iff (text : String) :
    IsUnreadable host provider text ↔
      chosenStrategy host provider = .error (.versionParse text) := by
  have hjudgement : IsUnreadable host provider text ↔ ∃ p, IsSole host provider p ∧
      judgement host provider p = .error (.versionParse text) := by
    simp [IsUnreadable, judgement_eq_error_iff]
  have hleft : withoutPlatform host provider ≠ .error (.versionParse text) := by
    intro h
    cases withoutPlatform_eq_error host provider h
  rw [hjudgement]
  by_cases hsole : ∃ q, IsSole host provider q
  · obtain ⟨q, hq⟩ := hsole
    rw [chosenStrategy_of_isSole host provider hq]
    constructor
    · rintro ⟨p, hp, hj⟩
      obtain rfl := hp.unique hq
      rw [hj]
    · intro h
      refine ⟨q, hq, ?_⟩
      rcases hj : judgement host provider q with failure | _ | _
      · simpa [hj] using h
      · simp [hj, hleft] at h
      · simp [hj] at h
  · have hnone := not_exists.mp hsole
    refine iff_of_false (fun ⟨p, hp, _⟩ => hnone p hp) ?_
    rcases chosenStrategy_cases_of_not_isSole host provider hnone with h | h | ⟨n, h⟩ <;> rw [h]
    · exact hleft
    · simp
    · simp

/-- Whatever keeps a strategy from being chosen leaves the library unusable. -/
theorem chosenStrategy_fatal {failure : Failure}
    (h : chosenStrategy host provider = .error failure) : failure.isFatal = true := by
  have hleft : withoutPlatform host provider = .error failure → failure.isFatal = true := by
    intro hnone
    rw [withoutPlatform_eq_error host provider hnone]
    rfl
  by_cases hsole : ∃ q, IsSole host provider q
  · obtain ⟨q, hq⟩ := hsole
    rw [chosenStrategy_of_isSole host provider hq] at h
    rcases hj : judgement host provider q with f | _ | _
    · obtain ⟨text, rfl, -⟩ := (judgement_eq_error_iff host provider q f).mp hj
      rw [hj] at h
      cases h
      rfl
    · rw [hj] at h
      exact hleft h
    · rw [hj] at h
      cases h
  · have hnone := not_exists.mp hsole
    rcases chosenStrategy_cases_of_not_isSole host provider hnone with hc | hc | ⟨n, hc⟩ <;>
      rw [hc] at h
    · exact hleft h
    · cases h
      rfl
    · cases h
      rfl

theorem resolverFor_fatal {failure : Failure}
    (h : ((resolverFor provider).run host w).1 = .error failure) : failure.isFatal = true := by
  rw [resolverFor_answer] at h
  cases hchosen : chosenStrategy host provider with
  | ok strategy => simp [hchosen, Except.map] at h
  | error f =>
    simp only [hchosen, Except.map, Except.error.injEq] at h
    exact chosenStrategy_fatal host provider (hchosen.trans (congrArg _ h))

/-- When each outcome of a resolution comes about. The two lookups and the function that counts the
platforms are tested for null, and only the latter is called. -/
structure Decides (outcome : Except Failure Resolver) : Prop where
  perPlatform : ∀ p, (∃ r, outcome = .ok r ∧ r.strategy = .perPlatform p) ↔
    IsSelected host provider p
  versionParse : ∀ text, outcome = .error (.versionParse text) ↔ IsUnreadable host provider text
  ambiguousPlatform : ∀ n, outcome = .error (.ambiguousPlatform n) ↔
    provider.lacks host .platformExtensionAddress = false ∧
      provider.lacks host .extensionAddress = true ∧
      ∃ e, provider.entryAnswer host .platformIds = some e ∧ reportedCount host e = n ∧ n ≠ 1
  missingPlatformIds : outcome = .error (.missingCoreFunction "clGetPlatformIDs") ↔
    provider.lacks host .platformExtensionAddress = false ∧
      provider.lacks host .platformIds = true
  missingExtensionAddress :
    outcome = .error (.missingCoreFunction "clGetExtensionFunctionAddress") ↔
      provider.lacks host .extensionAddress = true ∧
        (provider.lacks host .platformExtensionAddress = true ∨
          (∃ e, provider.entryAnswer host .platformIds = some e ∧ reportedCount host e = 1) ∧
            (∀ p, ¬ IsSelected host provider p) ∧ ∀ text, ¬ IsUnreadable host provider text)
  generic : (∃ r, outcome = .ok r ∧ r.strategy = .generic) ↔
    provider.lacks host .extensionAddress = false ∧
      (provider.lacks host .platformExtensionAddress = true ∨
        provider.lacks host .platformIds = false) ∧
      (∀ p, ¬ IsSelected host provider p) ∧ ∀ text, ¬ IsUnreadable host provider text
  lookups : ∀ r, outcome = .ok r → r.generic = provider.entryAnswer host .extensionAddress ∧
    r.perPlatform = provider.entryAnswer host .platformExtensionAddress ∧ r.released = false
  failures : ∀ failure, outcome = .error failure →
    failure = .missingCoreFunction "clGetPlatformIDs" ∨
      failure = .missingCoreFunction "clGetExtensionFunctionAddress" ∨
      (∃ n, failure = .ambiguousPlatform n) ∨ ∃ text, failure = .versionParse text

/-- What is chosen when no platform is selected and no version is unreadable. -/
theorem chosenStrategy_otherwise (hs : ∀ p, ¬ IsSelected host provider p)
    (hu : ∀ text, ¬ IsUnreadable host provider text) :
    chosenStrategy host provider =
      match provider.lacks host .platformExtensionAddress,
          provider.entryAnswer host .platformIds, provider.lacks host .extensionAddress with
      | false, none, _ => .error (.missingCoreFunction "clGetPlatformIDs")
      | false, some e, true =>
        if reportedCount host e = 1 then
          .error (.missingCoreFunction "clGetExtensionFunctionAddress")
        else .error (.ambiguousPlatform (reportedCount host e))
      | true, _, true => .error (.missingCoreFunction "clGetExtensionFunctionAddress")
      | _, _, false => .ok .generic := by
  by_cases hsole : ∃ q, IsSole host provider q
  · obtain ⟨q, hq⟩ := hsole
    rw [chosenStrategy_of_isSole host provider hq]
    obtain ⟨hlookup, e, hids, hone, -⟩ := id hq
    rcases hj : judgement host provider q with failure | _ | _
    · obtain ⟨text, -, htext⟩ := (judgement_eq_error_iff host provider q failure).mp hj
      exact (hu text ⟨q, hq, htext⟩).elim
    · rw [hlookup, hids]
      cases hgeneric : provider.lacks host .extensionAddress <;>
        simp [withoutPlatform, hgeneric, hone]
    · exact (hs q ⟨hq, (judgement_eq_true_iff host provider q).mp hj⟩).elim
  · have hnone := not_exists.mp hsole
    rw [chosenStrategy_of_not_isSole host provider hnone, withoutPlatform]
    cases provider.lacks host .platformExtensionAddress <;>
      cases provider.entryAnswer host .platformIds <;>
        cases provider.lacks host .extensionAddress <;> simp [ite_not]

/-- The outcome of choosing a strategy follows the decision procedure, whatever the provider and
the driver answer. -/
theorem resolverFor_decides : Decides host provider ((resolverFor provider).run host w).1 := by
  rw [resolverFor_answer]
  have hselected := isSelected_iff host provider
  have hunreadable := isUnreadable_iff host provider
  have hlacksIds := provider.lacks_eq_isNone host .platformIds
  by_cases hs : ∃ p, IsSelected host provider p
  · obtain ⟨p, hp⟩ := hs
    have hchosen := (hselected p).mp hp
    obtain ⟨⟨hlookup, e, hids, hone, -⟩, -⟩ := id hp
    constructor <;> simp_all [Except.map]
  by_cases hu : ∃ text, IsUnreadable host provider text
  · obtain ⟨text, ht⟩ := hu
    have hchosen := (hunreadable text).mp ht
    obtain ⟨p, ⟨hlookup, e, hids, hone, -⟩, -⟩ := id ht
    constructor <;> simp_all [Except.map]
  have hs : ∀ p, ¬ IsSelected host provider p := fun p hp => hs ⟨p, hp⟩
  have hu : ∀ text, ¬ IsUnreadable host provider text := fun text ht => hu ⟨text, ht⟩
  have hchosen := chosenStrategy_otherwise host provider hs hu
  clear hselected hunreadable
  rw [hchosen]
  cases hlookup : provider.lacks host .platformExtensionAddress with
  | true =>
    cases hgeneric : provider.lacks host .extensionAddress <;>
      constructor <;> simp_all [Except.map]
  | false =>
    cases hids : provider.entryAnswer host .platformIds with
    | none => constructor <;> simp_all [Except.map]
    | some e =>
      cases hgeneric : provider.lacks host .extensionAddress with
      | true =>
        by_cases hone : reportedCount host e = 1
        · constructor <;> simp_all [Except.map]
        · constructor <;> simp_all [Except.map]
      | false => constructor <;> simp_all [Except.map]

/-- A lookup for one platform that is a mere number is enough to ask for the platforms. -/
example :
    let host := Host.ofLists [{
      symbol := fun name =>
        if name = "clGetExtensionFunctionAddressForPlatform" then .ofWord 1 else .null }] []
    let provider := Provider.supplied { number := 0, library := 0, isFull := true }
    chosenStrategy host provider = .error (.missingCoreFunction "clGetPlatformIDs") := rfl

end NativeBinding.OpenCL
