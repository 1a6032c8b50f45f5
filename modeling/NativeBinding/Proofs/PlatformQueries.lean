import NativeBinding.Proofs.Decoding
import NativeBinding.Proofs.VersionQueries

/-!
What is learned from a driver about its platforms: the texts, whatever bytes it reports and in
whatever size, and the platforms themselves, whatever numbers it reports of them.
-/
namespace NativeBinding

open Text.Utf8 (ReadsAs encode untilNul)

namespace InfoReport

variable {report : InfoReport} {text : String}

/-- The driver reports all of a text: in just its size, or in more of which a NUL comes next, or
nothing. -/
structure TellsWhole (report : InfoReport) (text : String) : Prop where
  sizeStatus : report.sizeStatus = Status.success
  dataStatus : report.dataStatus = Status.success
  bytes : ∃ rest, report.bytes = encode text ++ rest ∧
    (report.size.bytes = (encode text).length ∨
      (encode text).length ≤ report.size.bytes ∧ ∀ b ∈ rest.head?, b = 0)

/-- A driver that does not refuse answers with what the bytes before the first NUL are read as. -/
theorem tells_iff : report.Tells text ↔
    ¬ report.Refuses ∧ ReadsAs (untilNul (report.bytes.take report.size.bytes)) text.toList := by
  have hreads : ∀ {text}, report.Tells text →
      ReadsAs (untilNul (report.bytes.take report.size.bytes)) text.toList := by
    rintro text ⟨-, ⟨hzero, rfl⟩ | ⟨-, -, rfl⟩⟩
    · rw [hzero]
      exact .nil
    · exact Text.Utf8.readsAs_decodeLossy _
  constructor
  · intro htells
    exact ⟨htells.not_refuses, hreads htells⟩
  · rintro ⟨haccepts, htext⟩
    rcases report.refuses_or_tells with hrefuses | ⟨told, htold, -⟩
    · exact absurd hrefuses haccepts
    · obtain rfl := String.toList_inj.mp (htext.unique (hreads htold))
      exact htold

theorem TellsWhole.not_refuses (h : report.TellsWhole text) : ¬ report.Refuses := by
  rintro (hsize | ⟨-, hdata⟩)
  · exact hsize h.sizeStatus
  · exact hdata h.dataStatus

/-- Of a text that is reported whole, the bytes before the first NUL are its encoding. -/
theorem TellsWhole.untilNul_eq (h : report.TellsWhole text) (hnul : '\x00' ∉ text.toList) :
    untilNul (report.bytes.take report.size.bytes) = encode text := by
  obtain ⟨rest, hbytes, hsize⟩ := h.bytes
  have hzero := Text.Utf8.zero_notMem_encode hnul
  rw [hbytes]
  rcases hsize with hexact | ⟨hmore, hrest⟩
  · rw [hexact, List.take_left]
    have hend : untilNul (encode text ++ []) = encode text :=
      Text.Utf8.untilNul_append hzero nofun
    rwa [List.append_nil] at hend
  · have hend := Text.Utf8.untilNul_append hzero hrest
    rw [Text.Utf8.untilNul_take (by rw [hend]; exact hmore), hend]

end InfoReport

namespace OpenCL

/-- A driver that is asked for a text of a platform. -/
structure TextQuery where
  host : Host
  world : World
  entry : Entry .platformInfo
  platform : PlatformId
  parameter : PlatformParameter

namespace TextQuery

/-- What the driver reports. -/
def report (q : TextQuery) : InfoReport :=
  (q.host.library q.entry.library).info q.platform q.parameter

/-- What is learned from that. -/
def answer (q : TextQuery) : Option String :=
  ((platformText (some q.entry) q.platform q.parameter).run q.host q.world).1

variable {q : TextQuery} {text : String}

theorem answer_eq_none_iff : q.answer = none ↔ q.report.Refuses := by
  rw [answer, platformText_answer]
  rcases InfoReport.refuses_or_tells q.report with hrefuses | ⟨told, htold, -⟩
  · exact iff_of_true (reportedText_of_refuses hrefuses) hrefuses
  · exact iff_of_false (by simp [reportedText_of_tells htold]) htold.not_refuses

theorem answer_eq_some_iff : q.answer = some text ↔
    ¬ q.report.Refuses ∧
      ReadsAs (untilNul (q.report.bytes.take q.report.size.bytes)) text.toList := by
  rw [← InfoReport.tells_iff, answer, platformText_answer]
  constructor
  · intro hanswer
    rcases InfoReport.refuses_or_tells q.report with hrefuses | ⟨told, htold, -⟩
    · rw [reportedText_of_refuses hrefuses] at hanswer
      cases hanswer
    · rw [reportedText_of_tells htold] at hanswer
      cases hanswer
      exact htold
  · exact reportedText_of_tells

/-- No text that is learned holds a NUL. -/
theorem nul_notMem (h : q.answer = some text) : '\x00' ∉ text.toList :=
  (answer_eq_some_iff.mp h).2.nul_notMem (Text.Utf8.zero_notMem_untilNul _)

theorem answer_of_tellsWhole (hnul : '\x00' ∉ text.toList) (h : q.report.TellsWhole text) :
    q.answer = some text := by
  rw [answer_eq_some_iff, h.untilNul_eq hnul, ← Text.Utf8.decodeLossy_eq_iff]
  exact ⟨h.not_refuses, Text.Utf8.decodeLossy_encode text⟩

/-- What is learned from a driver. -/
structure Learns (q : TextQuery) : Prop where
  /-- Nothing, exactly if the size is refused, or there are bytes and these are. -/
  none_iff : q.answer = none ↔
    q.report.sizeStatus ≠ Status.success ∨
      0 < q.report.size.bytes ∧ q.report.dataStatus ≠ Status.success
  /-- Otherwise what the bytes that were asked for are read as, up to the first NUL. -/
  some_iff : ∀ text, q.answer = some text ↔ q.answer ≠ none ∧
    ReadsAs (untilNul (q.report.bytes.take q.report.size.bytes)) text.toList
  nul_notMem : ∀ text, q.answer = some text → '\x00' ∉ text.toList
  /-- The size does not matter once it takes in all that precedes the first NUL. -/
  size_free : ∀ q' : TextQuery, q'.report.bytes = q.report.bytes →
    (untilNul q.report.bytes).length ≤ q.report.size.bytes →
    (untilNul q.report.bytes).length ≤ q'.report.size.bytes →
    ∀ text text', q.answer = some text → q'.answer = some text' → text = text'
  /-- A text without NUL that is reported whole is learned as it is. -/
  whole : ∀ text, '\x00' ∉ text.toList → q.report.TellsWhole text → q.answer = some text
  /-- So any text that was learned is learned again from a driver that reports it whole. -/
  again : ∀ text, q.answer = some text →
    ∀ q' : TextQuery, q'.report.TellsWhole text → q'.answer = some text

/-- Whatever a driver reports about a text, only what it means is learned. -/
theorem learns_text (q : TextQuery) : q.Learns := by
  constructor
  case none_iff => rw [answer_eq_none_iff, InfoReport.Refuses, Nat.pos_iff_ne_zero]
  case some_iff =>
    intro text
    rw [answer_eq_some_iff, ne_eq, answer_eq_none_iff]
  case nul_notMem => exact fun text => nul_notMem
  case size_free =>
    intro q' hbytes hsize hsize' text text' htext htext'
    have hreads := (answer_eq_some_iff.mp htext).2
    have hreads' := (answer_eq_some_iff.mp htext').2
    rw [Text.Utf8.untilNul_take hsize] at hreads
    rw [hbytes, Text.Utf8.untilNul_take hsize'] at hreads'
    exact String.toList_inj.mp (hreads.unique hreads')
  case whole => exact fun text => answer_of_tellsWhole
  case again => exact fun text htext q' => answer_of_tellsWhole (nul_notMem htext)

end TextQuery

/-- What a driver's platforms are taken to be, by what the driver reports of them. -/
structure Lists (report : PlatformReport) (ids : List PlatformId) : Prop where
  /-- None if a call fails, or none are counted. -/
  nothing : report.countStatus ≠ Status.success ∨ report.fetchStatus ≠ Status.success ∨
    report.count = 0 → ids = []
  /-- Otherwise as many as were both counted and returned. -/
  length : report.countStatus = Status.success → report.fetchStatus = Status.success →
    ids.length = min report.returned report.count
  /-- Each is the one that the driver wrote there, or null if it wrote none. -/
  written : ∀ i, i < ids.length → i < report.ids.length → ids[i]? = report.ids[i]?
  unwritten : ∀ i, i < ids.length → report.ids.length ≤ i → ids[i]? = some .null
  /-- There are never more than were counted. -/
  bounded : ids.length ≤ report.count
  /-- A driver that agrees with itself is taken at its word. -/
  consistent : report.countStatus = Status.success → report.fetchStatus = Status.success →
    report.count = report.ids.length → report.returned = report.ids.length → ids = report.ids

section Platforms

variable (host : Host) (w : World) (e : Entry .platformIds)

/-- What the driver behind a function reports of its platforms. -/
def platformReport : PlatformReport := (host.library e.library).platforms

/-- No platforms are reported by a call that fails. If both succeed there are as many as were both
counted and returned, and with a count of zero, too, these are none. -/
theorem reportedIds_cases :
    ((platformReport host e).countStatus ≠ Status.success ∨
        (platformReport host e).fetchStatus ≠ Status.success) ∧ reportedIds host e = [] ∨
      (platformReport host e).countStatus = Status.success ∧
        (platformReport host e).fetchStatus = Status.success ∧
        reportedIds host e =
          (List.range (min (platformReport host e).returned (platformReport host e).count)).map
            fun i => (platformReport host e).ids.getD i .null := by
  unfold platformReport reportedIds reportedCount
  by_cases hcount : (host.library e.library).platforms.countStatus = Status.success
  · by_cases hfetch : (host.library e.library).platforms.fetchStatus = Status.success
    · right
      by_cases hzero : (host.library e.library).platforms.count = 0
      · simp [hcount, hfetch, hzero]
      · simp [hcount, hfetch, hzero]
    · left
      simp [hfetch]
  · left
    simp [hcount]

theorem length_reportedIds_eq (hcount : (platformReport host e).countStatus = Status.success)
    (hfetch : (platformReport host e).fetchStatus = Status.success) :
    (reportedIds host e).length =
      min (platformReport host e).returned (platformReport host e).count := by
  rcases reportedIds_cases host e with ⟨hfails, -⟩ | ⟨-, -, hids⟩
  · exact absurd hfails (not_or.mpr ⟨not_not.mpr hcount, not_not.mpr hfetch⟩)
  · rw [hids, List.length_map, List.length_range]

theorem getElem?_reportedIds {i : Nat} (hi : i < (reportedIds host e).length) :
    (reportedIds host e)[i]? = some ((platformReport host e).ids.getD i .null) := by
  rcases reportedIds_cases host e with ⟨-, hids⟩ | ⟨-, -, hids⟩
  · simp [hids] at hi
  · rw [hids] at hi ⊢
    rw [List.length_map, List.length_range] at hi
    rw [List.getElem?_map, List.getElem?_range hi]
    rfl

/-- The entries are what the driver wrote, and null past that. -/
theorem getElem?_reportedIds_written {i : Nat} (hi : i < (reportedIds host e).length)
    (hwritten : i < (platformReport host e).ids.length) :
    (reportedIds host e)[i]? = (platformReport host e).ids[i]? := by
  rw [getElem?_reportedIds host e hi, List.getD_eq_getElem?_getD,
    List.getElem?_eq_getElem hwritten]
  rfl

/-- However the numbers of a driver disagree, no more is taken from it than it counted, and where
it wrote nothing there is null. -/
theorem platformIds_lists :
    Lists (platformReport host e) ((platformIds (some e)).run host w).1 ∧
      ((platformIds none).run host w).1 = [] := by
  refine ⟨?_, rfl⟩
  rw [platformIds_answer]
  constructor
  case nothing =>
    intro hnothing
    rcases reportedIds_cases host e with ⟨-, hids⟩ | ⟨hcount, hfetch, hids⟩
    · exact hids
    · have hzero := (hnothing.resolve_left (not_not.mpr hcount)).resolve_left (not_not.mpr hfetch)
      rw [hids, hzero, Nat.min_zero]
      rfl
  case length => exact length_reportedIds_eq host e
  case written => exact fun i => getElem?_reportedIds_written host e
  case unwritten =>
    intro i hi hbeyond
    rw [getElem?_reportedIds host e hi, List.getD_eq_getElem?_getD,
      List.getElem?_eq_none hbeyond]
    rfl
  case bounded =>
    rcases reportedIds_cases host e with ⟨-, hids⟩ | ⟨-, -, hids⟩
    · rw [hids]
      exact Nat.zero_le _
    · rw [hids, List.length_map, List.length_range]
      exact Nat.min_le_right _ _
  case consistent =>
    intro hcount hfetch hcounted hreturned
    have hlength : (reportedIds host e).length = (platformReport host e).ids.length := by
      rw [length_reportedIds_eq host e hcount hfetch, hcounted, hreturned, Nat.min_self]
    refine List.ext_getElem? fun i => ?_
    rcases Nat.lt_or_ge i (platformReport host e).ids.length with hi | hi
    · exact getElem?_reportedIds_written host e (hlength ▸ hi) hi
    · rw [List.getElem?_eq_none hi, List.getElem?_eq_none (hlength ▸ hi)]

end Platforms

end OpenCL

end NativeBinding
