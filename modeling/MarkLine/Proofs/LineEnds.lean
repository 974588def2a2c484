import MarkLine.Proofs.Scan

/-!
# Line ends

A text is cut at line feeds, so where lines end with a carriage return and a line feed the carriage
return belongs to the line. On a marker line it is one more blank and changes nothing: the same
lines are marker lines and the same positions are marked. On a content line it is kept with the
line.

So a scan finds the same regions whichever line ends the text has, and the clean source has the line
ends of the text (`scan_crlf`). One end of a line is special. The last line of a text has none, but
the last content line has one if marker lines follow it, and then the carriage return that was part
of it stays behind at the end of the clean source (`scan_crlf_keeps_return`).
-/

namespace MarkLine

namespace Text

/-- The characters of a text with a carriage return in front of every line feed. -/
def withReturns (text : List Char) : List Char :=
  text.flatMap fun c => if c = '\n' then ['\r', '\n'] else [c]

/-- Lines with a carriage return at the end of each but the last. -/
def returned : List (List Char) → List (List Char)
  | [] => []
  | [last] => [last]
  | line :: next :: rest => (line ++ ['\r']) :: returned (next :: rest)

theorem returned_cons (line : List Char) {rest : List (List Char)} (h : rest ≠ []) :
    returned (line :: rest) = (line ++ ['\r']) :: returned rest := by
  match rest, h with
  | _ :: _, _ => rfl

theorem returned_ne_nil {lines : List (List Char)} (h : lines ≠ []) : returned lines ≠ [] := by
  match lines, h with
  | [_], _ => simp [returned]
  | _ :: _ :: _, _ => simp [returned]

theorem withReturns_of_newline_not_mem {line : List Char} (h : '\n' ∉ line) :
    withReturns line = line := by
  induction line with
  | nil => rfl
  | cons c rest ih =>
    have hc : c ≠ '\n' := fun e => h (e ▸ List.mem_cons_self)
    have hrest : withReturns rest = rest := ih fun m => h (List.mem_cons_of_mem _ m)
    simpa [withReturns, hc] using hrest

/-- Carriage returns in front of the line feeds go to the lines that the line feeds end. -/
theorem splitOn_withReturns (text : List Char) :
    (withReturns text).splitOn '\n' = returned (text.splitOn '\n') := by
  induction text with
  | nil => rfl
  | cons c rest ih =>
    by_cases hc : c = '\n'
    · have htext : withReturns (c :: rest) = ['\r'] ++ '\n' :: withReturns rest := by
        simp [withReturns, hc]
      rw [htext, List.splitOn_append_cons_self_of_not_mem (by decide), hc, splitOn_cons_self,
        returned_cons _ (List.splitOn_ne_nil _ rest), ih]
      rfl
    · have htext : withReturns (c :: rest) = c :: withReturns rest := by
        simp [withReturns, hc]
      obtain ⟨line, lines, h⟩ := List.exists_cons_of_ne_nil (List.splitOn_ne_nil '\n' rest)
      rw [htext, splitOn_cons_of_ne hc h]
      rw [h] at ih
      cases lines with
      | nil => exact splitOn_cons_of_ne hc ih
      | cons next more => exact splitOn_cons_of_ne hc ih

theorem withReturns_intercalate {lines : List (List Char)} (h : ∀ line ∈ lines, '\n' ∉ line) :
    withReturns (['\n'].intercalate lines) = ['\n'].intercalate (returned lines) := by
  induction lines with
  | nil => rfl
  | cons line rest ih =>
    have hline : withReturns line = line :=
      withReturns_of_newline_not_mem (h line List.mem_cons_self)
    cases rest with
    | nil => simpa [returned] using hline
    | cons next more =>
      have hrest := ih fun l hl => h l (List.mem_cons_of_mem _ hl)
      have hne : returned (next :: more) ≠ [] := returned_ne_nil (List.cons_ne_nil next more)
      rw [List.intercalate_cons_cons, returned_cons line (by simp),
        List.intercalate_cons_of_ne_nil hne, ← hrest]
      simp only [withReturns, List.flatMap_append, List.flatMap_cons] at hline ⊢
      simp [hline]

/-- A carriage return at the end of every line, the last one included, is one more at the end. -/
theorem intercalate_map_return {lines : List (List Char)} (h : lines ≠ []) :
    ['\n'].intercalate (lines.map (· ++ ['\r'])) =
      ['\n'].intercalate (returned lines) ++ ['\r'] := by
  induction lines with
  | nil => exact absurd rfl h
  | cons line rest ih =>
    cases rest with
    | nil => simp [returned]
    | cons next more =>
      have hne : returned (next :: more) ≠ [] := returned_ne_nil (List.cons_ne_nil next more)
      rw [List.map_cons, List.intercalate_cons_of_ne_nil (by simp), ih (by simp),
        returned_cons line (by simp), List.intercalate_cons_of_ne_nil hne]
      simp

end Text

/-! ## Lines with a carriage return -/

section
variable {markers : List Char}

theorem return_not_mem (hm : ∀ c ∈ markers, Text.isBlank c = false) : '\r' ∉ markers := by
  intro h
  exact absurd (hm _ h) (by decide)

/-- A carriage return is a blank: it neither makes a marker line nor unmakes one. -/
theorem markerLine_return (hm : ∀ c ∈ markers, Text.isBlank c = false) {line : List Char} :
    MarkerLine markers (line ++ ['\r']) ↔ MarkerLine markers line := by
  have hblank : Text.isBlank '\r' = true := by decide
  have hmem := return_not_mem hm
  simp [MarkerLine, or_imp, forall_and, or_and_right, exists_or, hblank, hmem]

theorem lineMarks_return (hm : ∀ c ∈ markers, Text.isBlank c = false) (target column : Nat)
    (line : List Char) :
    lineMarks markers target column (line ++ ['\r']) = lineMarks markers target column line := by
  induction line generalizing column with
  | nil => simp [lineMarks, return_not_mem hm]
  | cons c rest ih => simp [lineMarks, ih]

theorem marks_returned (hm : ∀ c ∈ markers, Text.isBlank c = false) (kept : Nat)
    (lines : List (List Char)) :
    marks markers kept (Text.returned lines) = marks markers kept lines := by
  induction lines generalizing kept with
  | nil => rfl
  | cons line rest ih =>
    cases rest with
    | nil => rfl
    | cons next more =>
      rw [Text.returned_cons line (by simp)]
      by_cases h : MarkerLine markers line
      · rw [marks_cons_marker ((markerLine_return hm).2 h), marks_cons_marker h,
          lineMarks_return hm, ih]
      · rw [marks_cons_content (mt (markerLine_return hm).1 h), marks_cons_content h, ih]

/-- The content lines of lines with carriage returns. The last line has none, so the last content
line has one exactly if it is not the last line. -/
theorem contentLines_returned (hm : ∀ c ∈ markers, Text.isBlank c = false)
    {lines : List (List Char)} (hne : lines ≠ []) :
    contentLines markers (Text.returned lines) =
      if MarkerLine markers (lines.getLast hne)
      then (contentLines markers lines).map (· ++ ['\r'])
      else Text.returned (contentLines markers lines) := by
  induction lines with
  | nil => exact absurd rfl hne
  | cons line rest ih =>
    cases rest with
    | nil =>
      by_cases h : MarkerLine markers line <;> simp [contentLines, Text.returned, h]
    | cons next more =>
      have hrest := ih (List.cons_ne_nil next more)
      rw [Text.returned_cons line (by simp), List.getLast_cons (by simp)]
      by_cases h : MarkerLine markers line
      · rw [contentLines_cons_marker ((markerLine_return hm).2 h), contentLines_cons_marker h,
          hrest]
      · rw [contentLines_cons_content (mt (markerLine_return hm).1 h), contentLines_cons_content h,
          hrest]
        split
        · rfl
        · next hlast =>
          -- The last line is one of the content lines further down.
          have hmore : contentLines markers (next :: more) ≠ [] :=
            List.ne_nil_of_mem (mem_contentLines.2 ⟨List.getLast_mem _, hlast⟩)
          rw [Text.returned_cons line hmore]

end

/-! ## The whole text -/

def crlf (source : String) : String := String.ofList (Text.withReturns source.toList)

def lastLine (source : String) : List Char :=
  (linesOf source).getLast (linesOf_ne_nil source)

theorem linesOf_crlf (source : String) :
    linesOf (crlf source) = Text.returned (linesOf source) := by
  rw [linesOf, crlf, String.toList_ofList, Text.splitOn_withReturns, linesOf]

section
variable {markers : List Char}

theorem markerLine_firstLine_crlf (hm : ∀ c ∈ markers, Text.isBlank c = false) (source : String) :
    MarkerLine markers (firstLine (crlf source)) ↔ MarkerLine markers (firstLine source) := by
  obtain ⟨rest, hlines⟩ := linesOf_eq_cons source
  have hcrlf := linesOf_crlf source
  rw [hlines] at hcrlf
  cases rest with
  | nil => rw [firstLine_eq hcrlf]
  | cons next more => rw [firstLine_eq hcrlf, markerLine_return hm]

/-- The clean source of a text with carriage returns. -/
theorem clean_crlf (hm : ∀ c ∈ markers, Text.isBlank c = false) {source : String}
    (h : ¬ MarkerLine markers (firstLine source)) {clean : String}
    (hclean : clean = textOf (contentLines markers (linesOf source))) :
    textOf (contentLines markers (linesOf (crlf source))) =
      if MarkerLine markers (lastLine source) then crlf clean ++ "\r" else crlf clean := by
  have hnewline : ∀ line ∈ contentLines markers (linesOf source), '\n' ∉ line := fun line hline =>
    newline_not_mem_linesOf line (mem_contentLines.1 hline).1
  have hcontent : contentLines markers (linesOf (crlf source)) =
      if MarkerLine markers (lastLine source)
      then (contentLines markers (linesOf source)).map (· ++ ['\r'])
      else Text.returned (contentLines markers (linesOf source)) := by
    rw [linesOf_crlf]
    exact contentLines_returned hm (linesOf_ne_nil source)
  have hcrlf : crlf clean =
      textOf (Text.returned (contentLines markers (linesOf source))) := by
    rw [crlf, hclean, textOf, String.toList_ofList, Text.withReturns_intercalate hnewline, textOf]
  rw [hcontent, hcrlf]
  split
  · rw [textOf, Text.intercalate_map_return (contentLines_ne_nil h), String.ofList_append, textOf]
  · rfl

end

/-- **A text with carriage returns** is scanned as the text without them: with the same fault, or
with the same regions and a clean source that has carriage returns in its line ends. If the last
line of the text is a marker line, one more stays at the end of the clean source. -/
theorem scan_crlf (source : String) (markers : List Char) :
    scan (crlf source) markers = (scan source markers).map fun s =>
      { s with source :=
          if MarkerLine markers (lastLine source) then crlf s.source ++ "\r"
          else crlf s.source } := by
  calc scan (crlf source) markers
      = (scan (crlf source) markers).map id := by rw [Except.map_id]; rfl
    _ = _ := by
      refine scan_map_congr (fun hm => markerLine_firstLine_crlf hm source) fun hm h => ?_
      rw [clean_crlf hm h rfl, linesOf_crlf, marks_returned hm]
      rfl

/-- A content line above a last marker line keeps its carriage return, which is then the end of the
clean source. -/
theorem scan_crlf_keeps_return :
    '\r' ∉ "foo\n~".toList ∧
      scan "foo\n~" ['~'] = .ok ⟨"foo", [('~', Region.point ⟨0, 0⟩)]⟩ ∧
      scan (crlf "foo\n~") ['~'] = .ok ⟨"foo\r", [('~', Region.point ⟨0, 0⟩)]⟩ ∧
      crlf "foo" ≠ "foo\r" := by
  refine ⟨by decide, rfl, rfl, by decide⟩

end MarkLine
