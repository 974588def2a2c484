import MarkLine.Proofs.Scan
import Mathlib.Data.List.Forall2

/-!
# Independent regions

All markers share one text, one scan and one table of regions. Still the region of a marker depends
on little: which lines are marker lines, and at which columns of them the marker itself stands. Two
texts that agree on this may differ in every content line and in the places of all other markers
(`LooksAlike`); they are scanned with the same outcome as far as the marker is concerned
(`scan_region_eq_of_alike`).

The two scans run side by side. Their marks differ, but the marks of the one marker are the same in
both (`filter_marks_of_alike`), and these alone decide its region (`lookup_markAll_filter`).
-/

namespace MarkLine

/-! ## What a region depends on -/

theorem lookup_mark_congr {regions others : Regions} {c : Char}
    (h : regions.lookup c = others.lookup c) (marker : Char) (p : Position) :
    (regions.mark marker p).lookup c = (others.mark marker p).lookup c := by
  rw [lookup_mark, lookup_mark]
  by_cases hc : c = marker
  · subst hc
    rw [if_pos rfl, if_pos rfl, h]
  · rw [if_neg hc, if_neg hc, h]

/-- Of all marks those of a marker decide its region. -/
theorem lookup_markAll_filter {regions others : Regions} {c : Char}
    (h : regions.lookup c = others.lookup c) (found : List Mark) :
    (regions.markAll found).lookup c =
      (others.markAll (found.filter fun mark => mark.1 = c)).lookup c := by
  induction found generalizing regions others with
  | nil => exact h
  | cons mark rest ih =>
    by_cases hc : mark.1 = c
    · rw [List.filter_cons_of_pos (by simpa using hc), markAll_cons, markAll_cons]
      exact ih (lookup_mark_congr h mark.1 mark.2)
    · rw [List.filter_cons_of_neg (by simpa using hc), markAll_cons]
      refine ih ?_
      rw [lookup_mark, if_neg (Ne.symm hc), h]

section
variable {markers : List Char} {c : Char}

/-- The marks of a marker on a marker line are the columns where it stands. -/
theorem filter_lineMarks (hc : c ∈ markers) (target column : Nat) (line : List Char) :
    (lineMarks markers target column line).filter (fun mark => mark.1 = c) =
      (line.idxsOf c column).map fun k => (c, ⟨target, k⟩) := by
  induction line generalizing column with
  | nil => rfl
  | cons d rest ih =>
    by_cases hd : d = c
    · subst hd
      simp [lineMarks, hc, List.idxsOf_cons, ih]
    · by_cases hmem : d ∈ markers <;> simp [lineMarks, hmem, List.idxsOf_cons, hd, ih]

/-! ## Two texts side by side -/

/-- Two lines between which a marker makes no difference: marker lines on which it stands at the
same columns, or content lines. -/
def LooksAlike (markers : List Char) (c : Char) (line other : List Char) : Prop :=
  (MarkerLine markers line ∧ MarkerLine markers other ∧ line.idxsOf c = other.idxsOf c) ∨
    (¬ MarkerLine markers line ∧ ¬ MarkerLine markers other)

instance (markers : List Char) (c : Char) (line other : List Char) :
    Decidable (LooksAlike markers c line other) :=
  inferInstanceAs (Decidable (_ ∨ _))

theorem markerLine_iff_of_alike {line other : List Char} (h : LooksAlike markers c line other) :
    MarkerLine markers line ↔ MarkerLine markers other := by
  rcases h with ⟨hline, hother, -⟩ | ⟨hline, hother⟩
  · exact iff_of_true hline hother
  · exact iff_of_false hline hother

/-- Lines that look alike have the same marks of the marker, below any number of content lines. -/
theorem filter_marks_of_alike (hc : c ∈ markers) {lines others : List (List Char)}
    (h : List.Forall₂ (LooksAlike markers c) lines others) (kept : Nat) :
    (marks markers kept lines).filter (fun mark => mark.1 = c) =
      (marks markers kept others).filter (fun mark => mark.1 = c) := by
  induction h generalizing kept with
  | nil => rfl
  | cons hline _ ih =>
    rcases hline with ⟨hline, hother, hcolumns⟩ | ⟨hline, hother⟩
    · rw [marks_cons_marker hline, marks_cons_marker hother, List.filter_append,
        List.filter_append, filter_lineMarks hc, filter_lineMarks hc, hcolumns, ih]
    · rw [marks_cons_content hline, marks_cons_content hother, ih]

theorem markerLine_firstLine_of_alike {source other : String}
    (h : List.Forall₂ (LooksAlike markers c) (linesOf source) (linesOf other)) :
    MarkerLine markers (firstLine source) ↔ MarkerLine markers (firstLine other) := by
  obtain ⟨rest, hlines⟩ := linesOf_eq_cons source
  obtain ⟨rest', hlines'⟩ := linesOf_eq_cons other
  rw [hlines, hlines'] at h
  exact markerLine_iff_of_alike (List.forall₂_cons.1 h).1

/-- **The region of a marker** is the same in two texts whose lines look alike for it, and one of
them is scanned exactly if the other is: a fault of one is the fault of both. -/
theorem scan_region_eq_of_alike (hc : c ∈ markers) {source other : String}
    (h : List.Forall₂ (LooksAlike markers c) (linesOf source) (linesOf other)) :
    (scan source markers).map (·.region c) = (scan other markers).map (·.region c) := by
  refine scan_map_congr (fun _ => markerLine_firstLine_of_alike h) fun _ _ => ?_
  simp only [Scan.region]
  rw [lookup_markAll_filter rfl, filter_marks_of_alike hc h, ← lookup_markAll_filter rfl]

end

/-- Other code and the second marker elsewhere; the first one stands at the same columns below the
same lines. -/
theorem scan_region_eq_other_code :
    '~' ∈ ['~', '^'] ∧
      List.Forall₂ (LooksAlike ['~', '^'] '~') (linesOf "ab ~ cd\n~^~\n\n^ ~")
        (linesOf "x\n~ ~^^\ny = 1;\n  ~") ∧
      (scan "ab ~ cd\n~^~\n\n^ ~" ['~', '^']).map (·.region '~') =
        (scan "x\n~ ~^^\ny = 1;\n  ~" ['~', '^']).map (·.region '~') ∧
      (scan "x\n~ ~^^\ny = 1;\n  ~" ['~', '^']).map (·.region '~') =
        .ok (some ⟨⟨0, 0⟩, ⟨1, 2⟩, ""⟩) := by
  have hc : '~' ∈ ['~', '^'] := by decide
  have h : List.Forall₂ (LooksAlike ['~', '^'] '~') (linesOf "ab ~ cd\n~^~\n\n^ ~")
      (linesOf "x\n~ ~^^\ny = 1;\n  ~") := by decide
  exact ⟨hc, h, scan_region_eq_of_alike hc h, rfl⟩

end MarkLine
