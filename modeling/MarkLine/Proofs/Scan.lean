import MarkLine.Proofs.Lines
import MarkLine.Proofs.Regions

/-!
# What a scan finds

The scan goes through the lines once and keeps three things in step: the content lines so far, the
number of the last of them and the table of regions. `steps_eq` says what any number of lines adds
to that state, and from it `scan_eq_ok` gives the result in closed form: the content lines joined,
and the regions of all marks in reading order.

The main statement, `scan_reads_text`, is about the text alone. Every scan ends in one of three
ways, told apart by the markers and the first line, and a scan that succeeds gives the content lines
verbatim and, for each marker, the hull of its marked positions.
-/

namespace MarkLine

namespace Scan

variable {markers : List Char} {state : State} {line : List Char}

/-! ## One line -/

theorem step_content (h : ¬ MarkerLine markers line) :
    step markers state line =
      .ok { read := state.read + 1, kept := line :: state.kept, regions := state.regions } := by
  simp [step, isMarkerLine_iff, h]

theorem step_orphan (h : MarkerLine markers line) (hk : state.kept = []) :
    step markers state line = .error (.orphanMarkerLine (state.read + 1)) := by
  simp [step, isMarkerLine_iff, h, hk]

theorem step_marker (h : MarkerLine markers line) (hk : state.kept ≠ []) :
    step markers state line =
      .ok { read := state.read + 1
            kept := state.kept
            regions := state.regions.markAll
              (lineMarks markers (state.kept.length - 1) 0 line) } := by
  obtain ⟨last, above, hkept⟩ := List.exists_cons_of_ne_nil hk
  simp [step, isMarkerLine_iff, h, hkept, markLine_eq_markAll]

/-! ## All lines -/

/-- Below a content line no line is an orphan, and the state after any lines is that before them
with their content lines on top and their marks added. -/
theorem steps_eq (hk : state.kept ≠ []) (lines : List (List Char)) :
    steps markers state lines =
      .ok { read := state.read + lines.length
            kept := (contentLines markers lines).reverse ++ state.kept
            regions := state.regions.markAll (marks markers state.kept.length lines) } := by
  induction lines generalizing state with
  | nil => rfl
  | cons line rest ih =>
    by_cases h : MarkerLine markers line
    · simp only [steps, step_marker h hk]
      rw [ih, contentLines_cons_marker h, marks_cons_marker h, markAll_append]
      · simp [Nat.add_assoc, Nat.add_comm 1]
      · exact hk
    · simp only [steps, step_content h]
      rw [ih, contentLines_cons_content h, marks_cons_content h]
      · simp [Nat.add_assoc, Nat.add_comm 1]
      · exact List.cons_ne_nil _ _

end Scan

/-! ## The whole text -/

def firstLine (source : String) : List Char :=
  (linesOf source).head (linesOf_ne_nil source)

theorem linesOf_eq_cons (source : String) :
    ∃ rest, linesOf source = firstLine source :: rest :=
  ⟨(linesOf source).tail, (List.cons_head_tail (linesOf_ne_nil source)).symm⟩

theorem firstLine_mem (source : String) : firstLine source ∈ linesOf source :=
  List.head_mem _

theorem firstLine_eq {source : String} {line : List Char} {rest : List (List Char)}
    (h : linesOf source = line :: rest) : firstLine source = line := by
  simp [firstLine, h]

section
variable {source : String} {markers : List Char}

theorem find?_isBlank_eq_none (h : ∀ c ∈ markers, Text.isBlank c = false) :
    markers.find? Text.isBlank = none := by
  simpa [List.find?_eq_none] using h

/-- The first blank among the markers is the fault, whatever the text. -/
theorem scan_eq_invalidMarker {before after : List Char} {blank : Char}
    (hm : markers = before ++ blank :: after) (hbefore : ∀ c ∈ before, Text.isBlank c = false)
    (hblank : Text.isBlank blank = true) :
    scan source markers = .error (.invalidMarker blank) := by
  have hfind : markers.find? Text.isBlank = some blank := by
    rw [hm, List.find?_append, find?_isBlank_eq_none hbefore]
    simp [hblank]
  simp [scan, hfind]

theorem scan_eq_orphan (hm : ∀ c ∈ markers, Text.isBlank c = false)
    (h : MarkerLine markers (firstLine source)) :
    scan source markers = .error (.orphanMarkerLine 1) := by
  obtain ⟨rest, hlines⟩ := linesOf_eq_cons source
  have hsteps : Scan.steps markers ⟨0, [], []⟩ (linesOf source) =
      .error (.orphanMarkerLine 1) := by
    rw [hlines, Scan.steps, Scan.step_orphan h rfl]
  simp only [scan, find?_isBlank_eq_none hm]
  rw [hsteps]

/-- **The scan in closed form.** -/
theorem scan_eq_ok (hm : ∀ c ∈ markers, Text.isBlank c = false)
    (h : ¬ MarkerLine markers (firstLine source)) :
    scan source markers =
      .ok { source := textOf (contentLines markers (linesOf source))
            regions := Regions.markAll [] (marks markers 0 (linesOf source)) } := by
  obtain ⟨rest, hlines⟩ := linesOf_eq_cons source
  have hsteps : Scan.steps markers ⟨0, [], []⟩ (linesOf source) =
      .ok { read := 1 + rest.length
            kept := (contentLines markers rest).reverse ++ [firstLine source]
            regions := Regions.markAll [] (marks markers 1 rest) } := by
    rw [hlines, Scan.steps, Scan.step_content h]
    exact Scan.steps_eq (List.cons_ne_nil _ _) rest
  simp only [scan, find?_isBlank_eq_none hm]
  rw [hsteps, hlines, contentLines_cons_content h, marks_cons_content h]
  simp

example : scan "foobar\n    ~\n~ ^" ['~', '^'] =
    .ok { source := "foobar"
          regions := [('~', ⟨⟨0, 0⟩, ⟨0, 4⟩, ""⟩), ('^', ⟨⟨0, 2⟩, ⟨0, 2⟩, ""⟩)] } := rfl

/-- A scan that succeeds had no blank among its markers and a content line first. -/
theorem scan_eq_ok_iff {s : Scan} :
    scan source markers = .ok s ↔
      (∀ c ∈ markers, Text.isBlank c = false) ∧ ¬ MarkerLine markers (firstLine source) ∧
        s = { source := textOf (contentLines markers (linesOf source))
              regions := Regions.markAll [] (marks markers 0 (linesOf source)) } := by
  constructor
  · intro h
    have hm : ∀ c ∈ markers, Text.isBlank c = false := by
      cases hfind : markers.find? Text.isBlank with
      | none => simpa using hfind
      | some blank => simp [scan, hfind] at h
    have hfirst : ¬ MarkerLine markers (firstLine source) := by
      intro horphan
      rw [scan_eq_orphan hm horphan] at h
      cases h
    rw [scan_eq_ok hm hfirst] at h
    exact ⟨hm, hfirst, (Except.ok.inj h).symm⟩
  · rintro ⟨hm, hfirst, rfl⟩
    exact scan_eq_ok hm hfirst

/-- Two texts are scanned with outcomes that agree, if they both start with a marker line or both do
not, and if what is found in them agrees then. -/
theorem scan_map_congr {α : Type} {f g : Scan → α} {other : String}
    (hfirst : (∀ c ∈ markers, Text.isBlank c = false) →
      (MarkerLine markers (firstLine source) ↔ MarkerLine markers (firstLine other)))
    (hfound : (∀ c ∈ markers, Text.isBlank c = false) → ¬ MarkerLine markers (firstLine other) →
      f { source := textOf (contentLines markers (linesOf source))
          regions := Regions.markAll [] (marks markers 0 (linesOf source)) } =
      g { source := textOf (contentLines markers (linesOf other))
          regions := Regions.markAll [] (marks markers 0 (linesOf other)) }) :
    (scan source markers).map f = (scan other markers).map g := by
  cases hfind : markers.find? Text.isBlank with
  | some blank => simp [scan, hfind, Except.map]
  | none =>
    have hm : ∀ c ∈ markers, Text.isBlank c = false := by simpa using hfind
    by_cases horphan : MarkerLine markers (firstLine other)
    · rw [scan_eq_orphan hm horphan, scan_eq_orphan hm ((hfirst hm).2 horphan)]
      rfl
    · rw [scan_eq_ok hm horphan, scan_eq_ok hm (mt (hfirst hm).1 horphan)]
      exact congrArg Except.ok (hfound hm horphan)

/-- The regions of a scan are the hulls of its marks. -/
theorem hull_of_scan {s : Scan} (h : scan source markers = .ok s) :
    Hull (fun c p => (c, p) ∈ marks markers 0 (linesOf source)) s.regions := by
  obtain ⟨-, -, rfl⟩ := scan_eq_ok_iff.1 h
  exact hull_marks _

theorem contentLines_ne_nil (h : ¬ MarkerLine markers (firstLine source)) :
    contentLines markers (linesOf source) ≠ [] := by
  obtain ⟨rest, hlines⟩ := linesOf_eq_cons source
  rw [hlines, contentLines_cons_content h]
  exact List.cons_ne_nil _ _

/-- Content lines joined and cut again are the content lines. -/
theorem linesOf_clean (h : ¬ MarkerLine markers (firstLine source)) :
    linesOf (textOf (contentLines markers (linesOf source))) =
      contentLines markers (linesOf source) :=
  linesOf_textOf (contentLines_ne_nil h) fun line hline =>
    newline_not_mem_linesOf line (mem_contentLines.1 hline).1

end

/-- What a scan must find in a text: the content lines, and for each marker the hull of its marks,
which refer to the closest content line above. -/
structure Reads (markers : List Char) (source : String) (s : Scan) : Prop where
  /-- The lines of the clean source are the content lines, verbatim and in order. -/
  clean : linesOf s.source = contentLines markers (linesOf source)
  /-- No region for what is no marker or stands on no marker line. -/
  absent : ∀ c, s.region c = none ↔
    c ∉ markers ∨ ∀ line ∈ linesOf source, MarkerLine markers line → c ∉ line
  /-- A region runs from the least to the greatest marked position. -/
  extent : ∀ c region, s.region c = some region →
    IsLeast {p | MarkedAt markers (linesOf source) c p} region.first ∧
      IsGreatest {p | MarkedAt markers (linesOf source) c p} region.last
  /-- The line of a marked position is, in the clean source, the closest content line above. -/
  target : ∀ i line, (linesOf source)[i]? = some line → MarkerLine markers line →
    ∃ j content, ClosestAbove markers (linesOf source) i j content ∧
      (linesOf s.source)[(contentLines markers ((linesOf source).take i)).length - 1]? =
        some content

theorem hull_markedAt (markers : List Char) (lines : List (List Char)) :
    Hull (fun c p => c ∈ markers ∧ MarkedAt markers lines c p)
      (Regions.markAll [] (marks markers 0 lines)) :=
  hull_congr (hull_marks _) fun _ _ => mem_marks

section
variable {source : String} {markers : List Char}

/-- A marker line that is not the first line has a content line above it, if the first line is one.
-/
theorem contentLines_take_ne_nil {i : Nat} {line : List Char}
    (h : ¬ MarkerLine markers (firstLine source)) (hi : (linesOf source)[i]? = some line)
    (hline : MarkerLine markers line) : contentLines markers ((linesOf source).take i) ≠ [] := by
  obtain ⟨rest, hlines⟩ := linesOf_eq_cons source
  cases i with
  | zero =>
    rw [hlines] at hi
    obtain rfl : firstLine source = line := by simpa using hi
    exact absurd hline h
  | succ i =>
    rw [hlines, List.take_succ_cons, contentLines_cons_content h]
    exact List.cons_ne_nil _ _

theorem reads_closed_form (h : ¬ MarkerLine markers (firstLine source)) :
    Reads markers source
      { source := textOf (contentLines markers (linesOf source))
        regions := Regions.markAll [] (marks markers 0 (linesOf source)) } := by
  have hhull := hull_markedAt markers (linesOf source)
  refine ⟨linesOf_clean h, fun c => ?_, fun c region hregion => ?_, fun i line hi hline => ?_⟩
  · rw [Scan.region, hhull.lookup_none]
    by_cases hc : c ∈ markers
    · simp only [hc, true_and, not_true_eq_false, false_or]
      rw [← not_exists, exists_markedAt_iff]
      simp
    · simp [hc]
  · have hsome := hhull.lookup_some c region hregion
    have hc : c ∈ markers := hsome.1.1.1
    simpa [hc] using hsome
  · obtain ⟨hlt, -⟩ := List.getElem?_eq_some_iff.1 hi
    obtain ⟨j, content, hclosest, htext⟩ :=
      closestAbove_of_content hlt (contentLines_take_ne_nil h hi hline)
    exact ⟨j, content, hclosest, by rw [linesOf_clean h]; exact htext⟩

theorem reads_of_scan {s : Scan} (h : scan source markers = .ok s) : Reads markers source s := by
  obtain ⟨-, hfirst, rfl⟩ := scan_eq_ok_iff.1 h
  exact reads_closed_form hfirst

/-- A region does not end before it starts, and it ends on a line of the clean source. -/
theorem region_bounds {s : Scan} (h : Reads markers source s) {c : Char} {region : Region}
    (hregion : s.region c = some region) :
    region.first ≤ region.last ∧ region.last.line < (linesOf s.source).length := by
  obtain ⟨hleast, hgreatest⟩ := h.extent c region hregion
  obtain ⟨i, line, hi, hline, -, htarget⟩ := hgreatest.1
  obtain ⟨-, content, -, hcontent⟩ := h.target i line hi hline
  rw [← htarget] at hcontent
  exact ⟨hleast.2 hgreatest.1, (List.getElem?_eq_some_iff.1 hcontent).1⟩

end

/-- **Every scan, read off its text.** A blank marker is the fault, else a marker line that comes
first is, and in all other cases the scan succeeds and reads the text. -/
theorem scan_reads_text (source : String) (markers : List Char) :
    (∀ before blank after, markers = before ++ blank :: after →
      (∀ c ∈ before, Text.isBlank c = false) → Text.isBlank blank = true →
        scan source markers = .error (.invalidMarker blank)) ∧
    ((∀ c ∈ markers, Text.isBlank c = false) → MarkerLine markers (firstLine source) →
      scan source markers = .error (.orphanMarkerLine 1)) ∧
    ((∀ c ∈ markers, Text.isBlank c = false) → ¬ MarkerLine markers (firstLine source) →
      ∃ s, scan source markers = .ok s ∧ Reads markers source s) := by
  refine ⟨fun before blank after hm hbefore hblank => ?_, fun hm h => ?_, fun hm h => ?_⟩
  · exact scan_eq_invalidMarker hm hbefore hblank
  · exact scan_eq_orphan hm h
  · exact ⟨_, scan_eq_ok hm h, reads_closed_form h⟩

/-- A lower marker line that goes back to an earlier column and brings a second marker. -/
theorem scan_reads_stacked_lines :
    (∀ c ∈ ['~', '^'], Text.isBlank c = false) ∧
      ¬ MarkerLine ['~', '^'] (firstLine "foobar\n    ~\n~ ^") ∧
      ∃ s, scan "foobar\n    ~\n~ ^" ['~', '^'] = .ok s ∧
        Reads ['~', '^'] "foobar\n    ~\n~ ^" s := by
  have hm : ∀ c ∈ ['~', '^'], Text.isBlank c = false := by
    intro c hc
    simp only [List.mem_cons, List.not_mem_nil, or_false] at hc
    rcases hc with rfl | rfl <;> decide
  have h : ¬ MarkerLine ['~', '^'] (firstLine "foobar\n    ~\n~ ^") := by decide
  exact ⟨hm, h, (scan_reads_text _ _).2.2 hm h⟩

end MarkLine
