import MarkLine.Proofs.Scan
import Mathlib.Data.List.Induction

/-!
# Markers as a set

Whether a line is a marker line and which of its characters are marked depends on which characters
are markers, not on the order in which they are listed or how often, and of the characters only
those that occur matter. Two lists of markers that read every line of a text alike (`ReadAlike`)
give the same scan of it, down to the order of its regions (`scan_congr_of_alike`). So do two lists
of the same markers, whatever the text (`scan_congr`), and a parse for one marker beside any others
reads what a scan for all of them reads (`parseMarked_eq_ok`).

The order in which a scan lists its markers comes from the text: each stands where it is first
marked (`markers_of_scan`).
-/

namespace MarkLine

/-- Two lists of markers read a line alike: it is a marker line for both or for neither, and on a
marker line they take the same characters for markers. -/
def ReadAlike (markers others line : List Char) : Prop :=
  (MarkerLine markers line ↔ MarkerLine others line) ∧
    (MarkerLine markers line → ∀ c ∈ line, c ∈ markers ↔ c ∈ others)

section
variable {markers others : List Char}

theorem readAlike_of_mem_iff (h : ∀ c, c ∈ markers ↔ c ∈ others) (line : List Char) :
    ReadAlike markers others line :=
  ⟨by simp [MarkerLine, h], fun _ c _ => h c⟩

theorem contentLines_congr {lines : List (List Char)}
    (h : ∀ line ∈ lines, ReadAlike markers others line) :
    contentLines markers lines = contentLines others lines := by
  refine List.filter_congr fun line hline => ?_
  simp [(h line hline).1]

theorem lineMarks_congr {line : List Char} (h : ∀ c ∈ line, c ∈ markers ↔ c ∈ others)
    (target column : Nat) :
    lineMarks markers target column line = lineMarks others target column line := by
  induction line generalizing column with
  | nil => rfl
  | cons c rest ih =>
    have hc := h c List.mem_cons_self
    have hrest := ih fun d hd => h d (List.mem_cons_of_mem _ hd)
    simp [lineMarks, hc, hrest]

theorem marks_congr {lines : List (List Char)}
    (h : ∀ line ∈ lines, ReadAlike markers others line) (kept : Nat) :
    marks markers kept lines = marks others kept lines := by
  induction lines generalizing kept with
  | nil => rfl
  | cons line rest ih =>
    obtain ⟨hline, hmarks⟩ := h line List.mem_cons_self
    have hrest := ih fun l hl => h l (List.mem_cons_of_mem _ hl)
    by_cases hm : MarkerLine markers line
    · rw [marks_cons_marker hm, marks_cons_marker (hline.1 hm), lineMarks_congr (hmarks hm), hrest]
    · rw [marks_cons_content hm, marks_cons_content (mt hline.2 hm), hrest]

/-- **Two lists of markers that read every line of a text alike** give the same scan of it. -/
theorem scan_congr_of_alike {source : String} (hm : ∀ c ∈ markers, Text.isBlank c = false)
    (hm' : ∀ c ∈ others, Text.isBlank c = false)
    (h : ∀ line ∈ linesOf source, ReadAlike markers others line) :
    scan source markers = scan source others := by
  have hline := (h _ (firstLine_mem source)).1
  by_cases hfirst : MarkerLine markers (firstLine source)
  · rw [scan_eq_orphan hm hfirst, scan_eq_orphan hm' (hline.1 hfirst)]
  · rw [scan_eq_ok hm hfirst, scan_eq_ok hm' (mt hline.2 hfirst), contentLines_congr h,
      marks_congr h]

/-- **A scan depends on the set of its markers**, as long as none is a blank. -/
theorem scan_congr (h : ∀ c, c ∈ markers ↔ c ∈ others)
    (hm : ∀ c ∈ markers, Text.isBlank c = false) (source : String) :
    scan source markers = scan source others :=
  scan_congr_of_alike hm (fun c hc => hm c ((h c).2 hc)) fun line _ => readAlike_of_mem_iff h line

end

/-! ## One marker and the others -/

/-- Going through markers adds those that were not found before and loses none. -/
theorem mem_foldl_distinct {found markers : List Char} {c : Char} :
    c ∈ markers.foldl (fun found d => if found.contains d then found else found ++ [d]) found ↔
      c ∈ found ∨ c ∈ markers := by
  induction markers generalizing found with
  | nil => simp
  | cons d rest ih =>
    rw [List.foldl_cons, ih, List.mem_cons]
    by_cases hd : d ∈ found
    · rw [if_pos (by simpa using hd)]
      constructor
      · rintro (h | h)
        · exact .inl h
        · exact .inr (.inr h)
      · rintro (h | rfl | h)
        · exact .inl h
        · exact .inl hd
        · exact .inr h
    · simp [hd, or_assoc]

theorem mem_distinct {markers : List Char} {c : Char} : c ∈ distinct markers ↔ c ∈ markers := by
  rw [distinct, mem_foldl_distinct]
  simp

/-- A parse for one of the markers of a scan reads the same source and the same region. -/
theorem parseMarked_eq_ok {source : String} {markers others : List Char} {found : Scan}
    (hscan : scan source markers = .ok found) {marker : Char}
    (h : ∀ c, c ∈ markers ↔ c ∈ marker :: others) :
    parseMarked source marker others =
      .ok { source := found.source, region := found.region marker } := by
  obtain ⟨hm, -, -⟩ := scan_eq_ok_iff.1 hscan
  have hsame : ∀ c, c ∈ markers ↔ c ∈ distinct (marker :: others) := fun c =>
    (h c).trans mem_distinct.symm
  rw [parseMarked, ← scan_congr hsame hm, hscan]

/-! ## Markers in order -/

theorem distinct_concat (markers : List Char) (c : Char) :
    distinct (markers ++ [c]) =
      if c ∈ distinct markers then distinct markers else distinct markers ++ [c] := by
  simp [distinct, List.foldl_append]

/-- Going through more markers adds those that were not found before, in their order. -/
theorem foldl_distinct_eq (found markers : List Char) :
    markers.foldl (fun found c => if found.contains c then found else found ++ [c]) found =
      found ++ (distinct markers).filter (fun c => c ∉ found) := by
  induction markers using List.reverseRecOn with
  | nil => simp [distinct]
  | append_singleton rest c ih =>
    rw [List.foldl_append, ih, distinct_concat]
    by_cases hrest : c ∈ distinct rest <;> by_cases hfound : c ∈ found <;> simp [hrest, hfound]

theorem distinct_append (above below : List Char) :
    distinct (above ++ below) =
      distinct above ++ (distinct below).filter (fun c => c ∉ distinct above) := by
  rw [distinct, List.foldl_append, foldl_distinct_eq]
  rfl

theorem map_fst_mark (regions : Regions) (marker : Char) (p : Position) :
    (regions.mark marker p).map (·.1) =
      if marker ∈ regions.map (·.1) then regions.map (·.1) else regions.map (·.1) ++ [marker] := by
  induction regions with
  | nil => rfl
  | cons entry rest ih =>
    obtain ⟨c, region⟩ := entry
    by_cases hc : c = marker
    · simp [Regions.mark, hc]
    · simp only [Regions.mark, hc, if_false, List.map_cons, ih, List.mem_cons, Ne.symm hc, false_or]
      split <;> rfl

/-- The markers of a table are those of its marks, each where it occurs first. -/
theorem map_fst_markAll (found : List Mark) :
    (Regions.markAll [] found).map (·.1) = distinct (found.map (·.1)) := by
  induction found using List.reverseRecOn with
  | nil => rfl
  | append_singleton rest mark ih =>
    rw [markAll_append, markAll_cons, Regions.markAll, List.foldl_nil, map_fst_mark, ih,
      List.map_append, List.map_singleton, distinct_concat]

/-- **The markers that a scan finds** are those of the marks, each where it occurs first. -/
theorem markers_of_scan {source : String} {markers : List Char} {s : Scan}
    (h : scan source markers = .ok s) :
    s.markers = distinct ((marks markers 0 (linesOf source)).map (·.1)) := by
  obtain ⟨-, -, rfl⟩ := scan_eq_ok_iff.1 h
  exact map_fst_markAll _

end MarkLine
