import MarkLine.Case.Marked
import MarkLine.Proofs.Outcomes
import MarkLine.Proofs.Scan

/-!
# Built cases

Building a case is a chain of parts, each of which can fail. `build_eq_ok_iff` takes a successful
build apart once and for all; what is proved of a built case starts from the results of its parts.
-/

namespace MarkLine

namespace MarkedCase

/-- A case is built exactly if all its parts are. -/
theorem build_eq_ok_iff {m : MarkedCase} {c : FailingCase} :
    m.build = .ok c ↔ ∃ markers found errors output, m.markers = .ok markers ∧
      scan m.source markers = .ok found ∧ expectAll found m.description m.messages = .ok errors ∧
      m.fixed = .ok output ∧
      c = { name := m.description, code := found.source, options := m.options, errors, output,
            filename := m.filename, only := m.only } := by
  simp only [build, bind_eq_ok_iff, pure, Except.pure, Except.ok.injEq]
  constructor
  · rintro ⟨markers, hm, found, hs, errors, he, output, ho, rfl⟩
    exact ⟨markers, found, errors, output, hm, hs, he, ho, rfl⟩
  · rintro ⟨markers, found, errors, output, hm, hs, he, ho, rfl⟩
    exact ⟨markers, hm, found, hs, errors, he, output, ho, rfl⟩

theorem fixed_of_build {m : MarkedCase} {c : FailingCase} (h : m.build = .ok c) :
    m.fixed = .ok c.output := by
  obtain ⟨_, _, _, _, _, _, _, ho, rfl⟩ := build_eq_ok_iff.1 h
  exact ho

theorem markers_of_ok {m : MarkedCase} {markers : List Char} (h : m.markers = .ok markers) :
    markers = m.messages.map (·.marker) := by
  simp only [MarkedCase.markers] at h
  split at h
  · cases h
  · split at h
    · cases h
    · exact (Except.ok.inj h).symm

/-- One expectation for each message, in the order of the messages: the message at the region of
its marker. -/
theorem getElem?_of_expectAll {found : Scan} {description : String} {messages : List Message}
    {errors : List Expectation} (h : expectAll found description messages = .ok errors) :
    errors.length = messages.length ∧ ∀ (i : Nat) message, messages[i]? = some message →
      ∃ region, found.region message.marker = some region ∧
        errors[i]? = some { Expectation.at message.messageId region with
          data := message.data, suggestions := message.suggestions } := by
  induction messages generalizing errors with
  | nil =>
    obtain rfl : [] = errors := by simpa [expectAll] using h
    simp
  | cons first rest ih =>
    simp only [expectAll, bind_eq_ok_iff, pure, Except.pure, Except.ok.injEq] at h
    obtain ⟨e, hfirst, others, hrest, rfl⟩ := h
    obtain ⟨hlen, hget⟩ := ih hrest
    refine ⟨by simp [hlen], fun i message hi => ?_⟩
    cases i with
    | zero =>
      obtain rfl : first = message := by simpa using hi
      unfold expect at hfirst
      split at hfirst
      · cases hfirst
      · next region hregion =>
        obtain rfl := Except.ok.inj hfirst
        exact ⟨region, hregion, rfl⟩
    | succ i => exact hget i message (by simpa using hi)

/-! ## The expected fix -/

theorem isBlank_defaultMarker : ∀ c ∈ [defaultMarker], Text.isBlank c = false := by
  rw [List.forall_mem_singleton]
  decide

theorem distinct_defaultMarker : distinct [defaultMarker] = [defaultMarker] := rfl

/-- A text without the lines that hold only default markers and blanks. -/
def stripped (text : String) : String :=
  textOf (contentLines [defaultMarker] (linesOf text))

theorem strip_eq_ok {text : String} (h : ¬ MarkerLine [defaultMarker] (firstLine text)) :
    strip text = .ok (stripped text) := by
  have hscan := scan_eq_ok isBlank_defaultMarker h
  simp [strip, parseMarked, distinct_defaultMarker, hscan, Except.map, stripped]

theorem strip_eq_orphan {text : String} (h : MarkerLine [defaultMarker] (firstLine text)) :
    strip text = .error (.orphanMarkerLine 1) := by
  have hscan := scan_eq_orphan isBlank_defaultMarker h
  simp [strip, parseMarked, distinct_defaultMarker, hscan, Except.map]

/-- Texts are stripped one by one, unless one of them starts with a marker line. -/
theorem stripAll_eq (texts : List String) :
    stripAll texts =
      if ∃ text ∈ texts, MarkerLine [defaultMarker] (firstLine text)
      then .error (.orphanMarkerLine 1) else .ok (texts.map stripped) := by
  induction texts with
  | nil => simp [stripAll]
  | cons text rest ih =>
    by_cases h : MarkerLine [defaultMarker] (firstLine text)
    · simp [stripAll, strip_eq_orphan h, h, bind, Except.bind]
    · by_cases hrest : ∃ text ∈ rest, MarkerLine [defaultMarker] (firstLine text) <;>
        simp [stripAll, strip_eq_ok h, ih, h, hrest, bind, Except.bind, pure, Except.pure]

theorem stripped_of_strip {text clean : String} (h : strip text = .ok clean) :
    clean = stripped text := by
  by_cases horphan : MarkerLine [defaultMarker] (firstLine text)
  · rw [strip_eq_orphan horphan] at h
    cases h
  · rw [strip_eq_ok horphan] at h
    exact (Except.ok.inj h).symm

theorem stripped_of_stripAll {texts clean : List String} (h : stripAll texts = .ok clean) :
    clean = texts.map stripped := by
  rw [stripAll_eq] at h
  split at h
  · cases h
  · exact (Except.ok.inj h).symm

/-- The three forms of an expected fix: none, one text, or one text for each pass. -/
theorem fixed_eq_ok_iff {m : MarkedCase} {output : Option Fixed} :
    m.fixed = .ok output ↔
      (m.output = none ∧ m.outputs = [] ∧ output = none) ∨
      (∃ text clean, m.output = some text ∧ m.outputs = [] ∧ strip text = .ok clean ∧
        output = some (.single clean)) ∨
      (∃ clean, m.output = none ∧ m.outputs ≠ [] ∧ stripAll m.outputs = .ok clean ∧
        output = some (.passes clean)) := by
  unfold fixed
  cases m.output with
  | none =>
    cases m.outputs with
    | nil => simp [eq_comm]
    | cons first rest => simp [map_eq_ok_iff]
  | some text =>
    cases m.outputs with
    | nil => simp [map_eq_ok_iff]
    | cons first rest => simp

/-- A built case that expects passes expects at least one. -/
theorem passes_ne_nil_of_build {m : MarkedCase} {c : FailingCase} (h : m.build = .ok c)
    {texts : List String} (hout : c.output = some (.passes texts)) : texts ≠ [] := by
  rcases fixed_eq_ok_iff.1 (fixed_of_build h) with
    ⟨_, _, hnone⟩ | ⟨_, _, _, _, _, hsingle⟩ | ⟨clean, _, hne, hstrip, hpasses⟩
  · simp [hout] at hnone
  · simp [hout] at hsingle
  · obtain rfl : texts = clean := by simpa [hout] using hpasses
    rw [stripped_of_stripAll hstrip]
    simpa using hne

end MarkedCase
end MarkLine
