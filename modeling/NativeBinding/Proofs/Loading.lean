import Mathlib.Data.List.Forall2
import NativeBinding.Proofs.Impartiality
import NativeBinding.Proofs.Life

/-!
Loading a library is a search. Its candidates are tried one after another until one opens; each of
them leaves a trace of its own in the history, and none is tried after the one that opens.
-/
namespace NativeBinding

namespace LibraryName

variable {name file : String} {fault : NameFault}

/-- The name reaches the loader as this file: as it is, or without the NUL at its end, and no other
NUL is in it. -/
def Reaches (name file : String) : Prop :=
  '\x00' ∉ file.toList ∧ (name = file ∨ name = file ++ "\x00")

/-- The name does not reach the loader, for this fault. -/
def Breaks (name : String) : NameFault → Prop
  | .nulInside => '\x00' ∈ name.toList ∧ ∀ body, name ≠ body ++ "\x00"
  | .nulBeforeLast => ∃ body, name = body ++ "\x00" ∧ '\x00' ∈ body.toList

theorem holdsNul_iff (s : String) : Text.holdsNul s = true ↔ '\x00' ∈ s.toList :=
  List.contains_iff_mem

theorem native?_append_nul (body : String) : native? (body ++ "\x00") =
    if Text.holdsNul body then .error .nulBeforeLast else .ok body := by
  simp [native?]

theorem native?_of_ne (h : ∀ body, name ≠ body ++ "\x00") :
    native? name = if Text.holdsNul name then .error .nulInside else .ok name := by
  have hlast : name.toList.getLast? ≠ some '\x00' := by
    intro hlast
    obtain ⟨front, hfront⟩ := List.getLast?_eq_some_iff.mp hlast
    apply h (String.ofList front)
    apply String.toList_inj.mp
    simp [hfront]
  rw [native?, if_neg hlast]

/-- A name ends in a NUL, and then what stands before it counts, or it counts as a whole. -/
theorem reaches_append_nul_iff (body : String) :
    Reaches (body ++ "\x00") file ↔ '\x00' ∉ body.toList ∧ body = file := by
  constructor
  · rintro ⟨hfile, rfl | hbody⟩
    · simp at hfile
    · obtain rfl : body = file := by simpa using hbody
      exact ⟨hfile, rfl⟩
  · rintro ⟨hbody, rfl⟩
    exact ⟨hbody, .inr rfl⟩

theorem reaches_iff_of_ne (h : ∀ body, name ≠ body ++ "\x00") :
    Reaches name file ↔ '\x00' ∉ name.toList ∧ name = file := by
  constructor
  · rintro ⟨hfile, rfl | rfl⟩
    · exact ⟨hfile, rfl⟩
    · exact (h file rfl).elim
  · rintro ⟨hname, rfl⟩
    exact ⟨hname, .inl rfl⟩

theorem native?_eq_ok_iff : native? name = .ok file ↔ Reaches name file := by
  by_cases hend : ∃ body, name = body ++ "\x00"
  · obtain ⟨body, rfl⟩ := hend
    rw [native?_append_nul, reaches_append_nul_iff, ← holdsNul_iff]
    cases Text.holdsNul body <;> simp
  · have hne : ∀ body, name ≠ body ++ "\x00" := fun body h => hend ⟨body, h⟩
    rw [native?_of_ne hne, reaches_iff_of_ne hne, ← holdsNul_iff]
    cases Text.holdsNul name <;> simp

theorem native?_eq_error_iff : native? name = .error fault ↔ Breaks name fault := by
  by_cases hend : ∃ body, name = body ++ "\x00"
  · obtain ⟨body, rfl⟩ := hend
    rw [native?_append_nul]
    cases fault with
    | nulInside => cases Text.holdsNul body <;> simp [Breaks]
    | nulBeforeLast =>
      simp only [Breaks, String.append_left_inj, exists_eq_left', ← holdsNul_iff]
      cases Text.holdsNul body <;> simp
  · have hne : ∀ body, name ≠ body ++ "\x00" := fun body h => hend ⟨body, h⟩
    rw [native?_of_ne hne]
    cases fault with
    | nulBeforeLast => cases Text.holdsNul name <;> simp [Breaks, hne]
    | nulInside =>
      simp only [Breaks, ← holdsNul_iff]
      cases Text.holdsNul name <;> simp [hne]

end LibraryName

/-- The loader opens this library for the candidate. -/
def Opens (host : Host) (candidate file : String) (library : LibraryId) : Prop :=
  LibraryName.Reaches candidate file ∧ ∃ closing, host.openFile file = .opens library closing

/-- What the loader says about a file that it does not open. -/
def OpenFault.ofSystem : Option (List UInt8) → OpenFault
  | some text => .reported (Text.Utf8.untilNul text)
  | none => .unreported

/-- The report of a candidate that does not open. -/
def declineReport (receiver : Option String) (candidate : String) (fault : OpenFault) : Event :=
  .message receiver .debug s!"Failed to load {candidate}: {fault.message}"

/-- The candidate does not open, for this fault, and these events are the trace of trying it. -/
inductive Declines (host : Host) (receiver : Option String) (candidate : String) :
    OpenFault → List Event → Prop
  | unasked {fault : NameFault} : LibraryName.Breaks candidate fault →
    Declines host receiver candidate (.name fault)
      [declineReport receiver candidate (.name fault)]
  | refused {file : String} {text : Option (List UInt8)} :
    LibraryName.Reaches candidate file → host.openFile file = .fails text →
    Declines host receiver candidate (.ofSystem text)
      [.opened file none, declineReport receiver candidate (.ofSystem text)]

/-- The candidates that decline, each with its trace. -/
abbrev AllDecline (host : Host) (receiver : Option String) :
    List String → List (List Event) → Prop :=
  List.Forall₂ fun candidate es => ∃ fault, Declines host receiver candidate fault es

/-- How the search ends, and all that happens on the way: all candidates before the first that opens
are tried and declined, and none after it is; if none opens, the fault is that of the last. The
opened library has the number that is given next. -/
inductive TakesFirst (host : Host) (receiver : Option String) (number : Nat) (name : String) :
    List String → Except Failure SharedLibrary → List Event → Prop
  | loaded {declined later : List String} {traces : List (List Event)} {candidate file : String}
    {library : LibraryId} :
    AllDecline host receiver declined traces → Opens host candidate file library →
    TakesFirst host receiver number name (declined ++ candidate :: later)
      (.ok { name, path := candidate, opened := some { number, file, library } })
      (traces.flatten ++ [.opened file (some (.library number)),
        .message receiver .debug s!"Loaded native library {candidate}"])
  | failed {declined : List String} {traces : List (List Event)} {last : String}
    {fault : OpenFault} {es : List Event} :
    AllDecline host receiver declined traces → Declines host receiver last fault es →
    TakesFirst host receiver number name (declined ++ [last]) (.error (.libraryLoad name fault))
      (traces.flatten ++ es)

/-- The world after these events, with a number given to each library that was opened. -/
def World.going (w : World) (es : List Event) : World :=
  { w with
    nextNumber := w.nextNumber + (es.filterMap Event.opens?).length
    history := es.reverse ++ w.history }

theorem World.going_append (w : World) (es es' : List Event) :
    w.going (es ++ es') = (w.going es).going es' := by
  simp [going, Nat.add_assoc]

section Search

variable {host : Host} {receiver : Option String} {number : Nat} {name candidate file : String}
  {library : LibraryId} {fault : OpenFault} {es es' : List Event} {candidates : List String}
  {outcome : Except Failure SharedLibrary} {w : World}

theorem opens_or_declines (host : Host) (receiver : Option String) (candidate : String) :
    (∃ file library, Opens host candidate file library) ∨
      ∃ fault es, Declines host receiver candidate fault es := by
  cases hnative : LibraryName.native? candidate with
  | error fault =>
    exact .inr ⟨_, _, .unasked (LibraryName.native?_eq_error_iff.mp hnative)⟩
  | ok file =>
    have hreaches := LibraryName.native?_eq_ok_iff.mp hnative
    cases hfile : host.openFile file with
    | opens library closing => exact .inl ⟨file, library, hreaches, closing, hfile⟩
    | fails text => exact .inr ⟨_, _, .refused hreaches hfile⟩

theorem Declines.not_opens (h : Declines host receiver candidate fault es) :
    ¬ Opens host candidate file library := by
  rintro ⟨hreaches, closing, hopens⟩
  have hnative := LibraryName.native?_eq_ok_iff.mpr hreaches
  cases h with
  | unasked hbreaks =>
    rw [LibraryName.native?_eq_error_iff.mpr hbreaks] at hnative
    cases hnative
  | refused hreaches' hfails =>
    rw [LibraryName.native?_eq_ok_iff.mpr hreaches'] at hnative
    cases hnative
    rw [hfails] at hopens
    cases hopens

/-- Trying a candidate that declines opens and ends nothing. -/
theorem Declines.idle (h : Declines host receiver candidate fault es) :
    es.filterMap Event.opens? = [] ∧ ∀ e ∈ es, e.ends? = none := by
  cases h <;> simp [declineReport, Event.opens?, Event.ends?]

namespace SharedLibrary

theorem openFile_of_fails {text : Option (List UInt8)}
    (hnative : LibraryName.native? candidate = .ok file) (h : host.openFile file = .fails text) :
    (openFile candidate).run host w =
      (.error (.ofSystem text), w.going [.opened file none]) := by
  unfold openFile
  rw [hnative]
  simp only [Action.run_bind, Action.run_read, h]
  cases text <;> rfl

theorem openFile_of_opens {closing : CloseOutcome}
    (hnative : LibraryName.native? candidate = .ok file)
    (h : host.openFile file = .opens library closing) :
    (openFile candidate).run host w = (.ok { number := w.nextNumber, file, library },
      w.going [.opened file (some (.library w.nextNumber))]) := by
  unfold openFile
  rw [hnative]
  simp only [Action.run_bind, Action.run_read, h]
  rfl

theorem openCandidate_of_declines (h : Declines host w.receiver candidate fault es) :
    (openCandidate name candidate).run host w = (.error fault, w.going es) := by
  unfold openCandidate
  rw [Action.run_bind]
  cases h with
  | @unasked fault hbreaks =>
    have hnative := LibraryName.native?_eq_error_iff.mpr hbreaks
    have hopen : (openFile candidate).run host w = (.error (.name fault), w) := by
      rw [openFile, hnative]
      rfl
    rw [hopen]
    rfl
  | refused hreaches hfails =>
    rw [openFile_of_fails (LibraryName.native?_eq_ok_iff.mpr hreaches) hfails]
    rfl

theorem openCandidate_of_opens (h : Opens host candidate file library) :
    (openCandidate name candidate).run host w =
      (.ok { name, path := candidate, opened := some { number := w.nextNumber, file, library } },
        w.going [.opened file (some (.library w.nextNumber)),
          .message w.receiver .debug s!"Loaded native library {candidate}"]) := by
  obtain ⟨hreaches, closing, hopens⟩ := h
  unfold openCandidate
  rw [Action.run_bind, openFile_of_opens (LibraryName.native?_eq_ok_iff.mpr hreaches) hopens]
  rfl

end SharedLibrary

/-- A candidate that declines is one more before those that are tried after it. -/
theorem TakesFirst.cons (h : Declines host receiver candidate fault es)
    (hrest : TakesFirst host receiver number name candidates outcome es') :
    TakesFirst host receiver number name (candidate :: candidates) outcome (es ++ es') := by
  cases hrest with
  | loaded hdeclined hopens =>
    have hall := List.Forall₂.cons ⟨fault, h⟩ hdeclined
    simpa using TakesFirst.loaded hall hopens
  | failed hdeclined hlast =>
    have hall := List.Forall₂.cons ⟨fault, h⟩ hdeclined
    simpa using TakesFirst.failed hall hlast

theorem TakesFirst.single (h : Declines host receiver candidate fault es) :
    TakesFirst host receiver number name [candidate] (.error (.libraryLoad name fault)) es :=
  .failed .nil h

theorem TakesFirst.now (h : Opens host candidate file library) (candidates : List String) :
    TakesFirst host receiver number name (candidate :: candidates)
      (.ok { name, path := candidate, opened := some { number, file, library } })
      [.opened file (some (.library number)),
        .message receiver .debug s!"Loaded native library {candidate}"] :=
  .loaded .nil h

namespace SharedLibrary

theorem openFirst_of_opens (h : Opens host candidate file library) (candidates : List String) :
    (openFirst name candidate candidates).run host w =
      (.ok { name, path := candidate, opened := some { number := w.nextNumber, file, library } },
        w.going [.opened file (some (.library w.nextNumber)),
          .message w.receiver .debug s!"Loaded native library {candidate}"]) := by
  cases candidates <;>
    rw [openFirst, Attempt.run_bind, Attempt.run_liftM, openCandidate_of_opens h] <;> rfl

/-- The search ends at the first candidate that opens, or at the last. -/
theorem openFirst_takesFirst (host : Host) (name candidate : String) (candidates : List String)
    (w : World) :
    ∃ es, TakesFirst host w.receiver w.nextNumber name (candidate :: candidates)
        ((openFirst name candidate candidates).run host w).1 es ∧
      ((openFirst name candidate candidates).run host w).2 = w.going es := by
  induction candidates generalizing candidate w with
  | nil =>
    rcases opens_or_declines host w.receiver candidate with
      ⟨file, library, hopens⟩ | ⟨fault, es, hdeclines⟩
    · rw [openFirst_of_opens hopens]
      exact ⟨_, .now hopens [], rfl⟩
    · rw [openFirst, Attempt.run_bind, Attempt.run_liftM, openCandidate_of_declines hdeclines]
      exact ⟨es, .single hdeclines, rfl⟩
  | cons next candidates ih =>
    rcases opens_or_declines host w.receiver candidate with
      ⟨file, library, hopens⟩ | ⟨fault, es, hdeclines⟩
    · rw [openFirst_of_opens hopens]
      exact ⟨_, .now hopens _, rfl⟩
    · obtain ⟨es', hrest, hgoing⟩ := ih next (w.going es)
      have hnumber : (w.going es).nextNumber = w.nextNumber := by
        simp [World.going, hdeclines.idle.1]
      rw [hnumber] at hrest
      rw [openFirst, Attempt.run_bind, Attempt.run_liftM, openCandidate_of_declines hdeclines]
      refine ⟨es ++ es', hrest.cons hdeclines, ?_⟩
      rw [World.going_append]
      exact hgoing

end SharedLibrary

/-- Candidates that decline open and end nothing. -/
theorem AllDecline.idle {declined : List String} {traces : List (List Event)}
    (h : AllDecline host receiver declined traces) :
    traces.flatten.filterMap Event.opens? = [] ∧ ∀ e ∈ traces.flatten, e.ends? = none := by
  induction h with
  | nil => simp
  | cons hdeclines hrest ih =>
    obtain ⟨fault, hdeclines⟩ := hdeclines
    have hidle := hdeclines.idle
    rw [List.flatten_cons, List.filterMap_append, hidle.1, ih.1]
    refine ⟨rfl, fun e he => ?_⟩
    rcases List.mem_append.mp he with he | he
    · exact hidle.2 e he
    · exact ih.2 e he

theorem AllDecline.not_opens {declined : List String} {traces : List (List Event)}
    (h : AllDecline host receiver declined traces) (hmem : candidate ∈ declined) :
    ¬ Opens host candidate file library := by
  induction h with
  | nil => cases hmem
  | cons hdeclines hrest ih =>
    obtain ⟨fault, hdeclines⟩ := hdeclines
    rcases List.mem_cons.mp hmem with rfl | hmem
    · exact hdeclines.not_opens
    · exact ih hmem

/-- The handles that an outcome of loading holds. -/
def handlesOf : Except Failure SharedLibrary → List Serial
  | .ok l => l.opened.toList.map OpenLibrary.serial
  | .error _ => []

namespace TakesFirst

/-- What was opened on the way is what the outcome holds, and nothing was closed again. -/
theorem holds_opened (h : TakesFirst host receiver number name candidates outcome es) :
    es.filterMap Event.opens? = handlesOf outcome ∧ ∀ e ∈ es, e.ends? = none := by
  cases h with
  | loaded hdeclined hopens =>
    have hidle := hdeclined.idle
    rw [List.filterMap_append, hidle.1]
    refine ⟨rfl, fun e he => ?_⟩
    rcases List.mem_append.mp he with he | he
    · exact hidle.2 e he
    · simp only [List.mem_cons, List.not_mem_nil, or_false] at he
      rcases he with rfl | rfl <;> rfl
  | failed hdeclined hlast =>
    have hidle := hdeclined.idle
    rw [List.filterMap_append, hidle.1, hlast.idle.1]
    refine ⟨rfl, fun e he => ?_⟩
    rcases List.mem_append.mp he with he | he
    · exact hidle.2 e he
    · exact hlast.idle.2 e he

theorem succeeds_iff (h : TakesFirst host receiver number name candidates outcome es) :
    (∃ l, outcome = .ok l) ↔ ∃ c ∈ candidates, ∃ file library, Opens host c file library := by
  cases h with
  | @loaded _ _ _ candidate file library hdeclined hopens =>
    constructor
    · intro _
      exact ⟨candidate, by simp, file, library, hopens⟩
    · intro _
      exact ⟨_, rfl⟩
  | failed hdeclined hlast =>
    constructor
    · rintro ⟨l, ⟨⟩⟩
    · rintro ⟨c, hc, file, library, hopens⟩
      rcases List.mem_append.mp hc with hc | hc
      · exact (hdeclined.not_opens hc hopens).elim
      · rw [List.mem_singleton.mp hc] at hopens
        exact (hlast.not_opens hopens).elim

end TakesFirst

/-- Loading takes the first candidate that opens, and holds that alone. The empty name is refused
before anything is tried. -/
theorem SharedLibrary.load_takesFirst (host : Host) (name : String) (fallbacks : List String)
    (w : World) :
    if name = "" then
      (load name fallbacks).run host w = (.error (.invalidArgument "empty library name"), w)
    else
      ∃ outcome es,
        (load name fallbacks).run host w = (outcome, w.going es) ∧
        TakesFirst host w.receiver w.nextNumber name (LibraryName.primary name :: fallbacks)
          outcome es ∧
        ((∃ l, outcome = .ok l) ↔ ∃ candidate ∈ LibraryName.primary name :: fallbacks,
          ∃ file library, Opens host candidate file library) ∧
        es.filterMap Event.opens? = handlesOf outcome ∧ ∀ e ∈ es, e.ends? = none := by
  unfold load
  split
  · rfl
  · obtain ⟨es, htakes, hgoing⟩ :=
      openFirst_takesFirst host name (LibraryName.primary name) fallbacks w
    exact ⟨_, es, Prod.ext rfl hgoing, htakes, htakes.succeeds_iff, htakes.holds_opened⟩

end Search

end NativeBinding
