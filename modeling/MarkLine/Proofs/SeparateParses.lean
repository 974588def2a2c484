import MarkLine.Proofs.Build
import MarkLine.Proofs.MarkerSet
import Mathlib.Data.List.Perm.Basic

/-!
# A build beside separate parses

A case is built from one scan for all its markers. The same case could be read message by message,
with one parse for the marker of each message beside the markers of the others. Both ways agree
(`built_of_build`): every parse gives the code of the built case, and the region it finds is where
the error of the message is expected. No message decides about the code or the region of another.
-/

namespace MarkLine

namespace MarkedCase

/-- What a built case is, said message by message. -/
structure Built (m : MarkedCase) (c : FailingCase) : Prop where
  /-- There is one error for each message. -/
  length : c.errors.length = m.messages.length
  /-- The error of a message carries what the message carries and has the region that a parse for
  its marker finds beside the other markers, in any order and however often they are listed. -/
  errors : ∀ (i : Nat) message, m.messages[i]? = some message → ∃ e, c.errors[i]? = some e ∧
    e.messageId = message.messageId ∧ e.data = message.data ∧
    e.suggestions = message.suggestions ∧
    ∀ others, (∀ d, d ∈ others ↔ d ∈ (m.messages.eraseIdx i).map (·.marker)) →
      ∃ region, parseMarked m.source message.marker others =
          .ok { source := c.code, region := some region } ∧
        e.span = { line := region.first.line + 1, column := region.first.character + 1
                   endLine := region.last.line + 1, endColumn := region.last.character + 1 }
  /-- Errors lie within the code and end no sooner than they start. -/
  bounds : ∀ e ∈ c.errors, 1 ≤ e.span.line ∧ e.span.line ≤ e.span.endLine ∧
    e.span.endLine ≤ (linesOf c.code).length ∧
    (e.span.line < e.span.endLine ∨
      (e.span.line = e.span.endLine ∧ e.span.column ≤ e.span.endColumn))
  /-- The expected fix holds the output texts without their marker lines, in their order. -/
  output : (m.output = none ∧ m.outputs = [] ∧ c.output = none) ∨
    (∃ text, m.output = some text ∧ m.outputs = [] ∧ c.output = some (.single (stripped text))) ∨
    (m.output = none ∧ m.outputs ≠ [] ∧ c.output = some (.passes (m.outputs.map stripped)))
  /-- Everything else is taken over. -/
  copied : c.name = m.description ∧ c.options = m.options ∧ c.filename = m.filename ∧
    c.only = m.only

/-- A message and the other messages have all the markers. -/
theorem mem_markers_iff {messages : List Message} {i : Nat} {message : Message}
    (hi : messages[i]? = some message) {others : List Char}
    (hothers : ∀ d, d ∈ others ↔ d ∈ (messages.eraseIdx i).map (·.marker)) (d : Char) :
    d ∈ messages.map (·.marker) ↔ d ∈ message.marker :: others := by
  obtain ⟨hlt, rfl⟩ := List.getElem?_eq_some_iff.1 hi
  have hperm := (List.getElem_cons_eraseIdx_perm hlt).map (·.marker)
  rw [← hperm.mem_iff, List.map_cons, List.mem_cons, List.mem_cons, hothers]

/-- The span of a region of a scan lies within its source. -/
theorem span_bounds {source : String} {markers : List Char} {found : Scan}
    (hreads : Reads markers source found) {c : Char} {region : Region}
    (hregion : found.region c = some region) :
    1 ≤ region.span.line ∧ region.span.line ≤ region.span.endLine ∧
      region.span.endLine ≤ (linesOf found.source).length ∧
      (region.span.line < region.span.endLine ∨
        (region.span.line = region.span.endLine ∧
          region.span.column ≤ region.span.endColumn)) := by
  obtain ⟨hle, hlt⟩ := region_bounds hreads hregion
  rw [Position.le_iff] at hle
  simp only [Region.span, Position.oneBased]
  omega

/-- **A build agrees with one parse for each message.** -/
theorem built_of_build {m : MarkedCase} {c : FailingCase} (h : m.build = .ok c) : Built m c := by
  obtain ⟨markers, found, errors, output, hmarkers, hscan, herrors, houtput, rfl⟩ :=
    build_eq_ok_iff.1 h
  obtain rfl := markers_of_ok hmarkers
  obtain ⟨hlen, hget⟩ := getElem?_of_expectAll herrors
  refine ⟨hlen, fun i message hi => ?_, fun e he => ?_, ?_, rfl, rfl, rfl, rfl⟩
  · obtain ⟨region, hregion, herror⟩ := hget i message hi
    refine ⟨_, herror, rfl, rfl, rfl, fun others hothers => ⟨region, ?_, rfl⟩⟩
    rw [parseMarked_eq_ok hscan (mem_markers_iff hi hothers), hregion]
  · obtain ⟨i, hi⟩ := List.mem_iff_getElem?.1 he
    obtain ⟨hlt, -⟩ := List.getElem?_eq_some_iff.1 hi
    obtain ⟨region, hregion, herror⟩ := hget i _ (List.getElem?_eq_getElem (hlen ▸ hlt))
    obtain rfl := Option.some.inj (hi.symm.trans herror)
    exact span_bounds (reads_of_scan hscan) hregion
  · rcases fixed_eq_ok_iff.1 houtput with
      hnone | ⟨text, clean, hone, hmany, hstrip, rfl⟩ | ⟨clean, hone, hmany, hstrip, rfl⟩
    · exact .inl hnone
    · exact .inr (.inl ⟨text, hone, hmany, by rw [stripped_of_strip hstrip]⟩)
    · exact .inr (.inr ⟨hone, hmany, by rw [stripped_of_stripAll hstrip]⟩)

/-- Three markers on two lines, one of them on both, and an output that is marked itself. -/
def threeMarkers : MarkedCase :=
  { MarkedCase.multiple "three markers" "abc\n~ ^\ndef\n~#"
      [{ messageId := "first" }, { marker := '^', messageId := "second" },
       { marker := '#', messageId := "third" }] with
    output := some "abd\n  ~", filename := some "a.js" }

def threeRegions : FailingCase :=
  { name := "three markers", code := "abc\ndef", options := []
    errors := [⟨"first", none, ⟨1, 1, 2, 1⟩, none⟩, ⟨"second", none, ⟨1, 3, 1, 3⟩, none⟩,
      ⟨"third", none, ⟨2, 2, 2, 2⟩, none⟩]
    output := some (.single "abd"), filename := some "a.js", only := false }

/-- A parse for the second marker, beside the others in another order and one of them twice. -/
theorem threeRegions_built :
    threeMarkers.build = .ok threeRegions ∧
      ∃ region, parseMarked threeMarkers.source '^' ['#', '~', '#'] =
          .ok { source := threeRegions.code, region := some region } ∧
        region.span = ⟨1, 3, 1, 3⟩ := by
  have hbuild : threeMarkers.build = .ok threeRegions := rfl
  obtain ⟨e, he, -, -, -, hparse⟩ := (built_of_build hbuild).errors 1 _ rfl
  obtain ⟨region, hregion, hspan⟩ := hparse ['#', '~', '#'] (by
    intro d
    simp [threeMarkers, multiple, defaultMarker, or_comm])
  obtain rfl := Option.some.inj he
  exact ⟨hbuild, region, hregion, hspan.symm⟩

end MarkedCase
end MarkLine
