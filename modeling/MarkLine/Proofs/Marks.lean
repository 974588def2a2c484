import MarkLine.Scan

/-!
# Marked positions of a text

What the marker lines of a text say, read off the text as a whole and without running the scan. The
lines fall into marker lines and content lines (`MarkerLine`, `contentLines`); a character of a
marker line is marked at its own column of the last content line above (`MarkedAt`).

`marks` lists the same positions in reading order, which is the order in which the scan meets them;
`mem_marks` says that the list and the description agree.
-/

namespace MarkLine

/-- A line with at least one marker that holds nothing but markers and blanks. -/
def MarkerLine (markers line : List Char) : Prop :=
  (∃ c ∈ line, c ∈ markers) ∧ ∀ c ∈ line, c ∈ markers ∨ Text.isBlank c = true

theorem isMarkerLine_iff {markers line : List Char} :
    isMarkerLine markers line = true ↔ MarkerLine markers line := by
  simp [isMarkerLine, MarkerLine]

instance (markers line : List Char) : Decidable (MarkerLine markers line) :=
  decidable_of_iff _ isMarkerLine_iff

/-! ## Content lines -/

/-- The lines that are no marker lines, as they are and in their order. -/
def contentLines (markers : List Char) (lines : List (List Char)) : List (List Char) :=
  lines.filter fun line => ¬ MarkerLine markers line

theorem contentLines_cons_marker {markers line : List Char} (h : MarkerLine markers line)
    (rest : List (List Char)) :
    contentLines markers (line :: rest) = contentLines markers rest := by
  simp [contentLines, h]

theorem contentLines_cons_content {markers line : List Char} (h : ¬ MarkerLine markers line)
    (rest : List (List Char)) :
    contentLines markers (line :: rest) = line :: contentLines markers rest := by
  simp [contentLines, h]

theorem contentLines_append (markers : List Char) (above below : List (List Char)) :
    contentLines markers (above ++ below) =
      contentLines markers above ++ contentLines markers below :=
  List.filter_append ..

theorem mem_contentLines {markers line : List Char} {lines : List (List Char)} :
    line ∈ contentLines markers lines ↔ line ∈ lines ∧ ¬ MarkerLine markers line := by
  simp [contentLines]

theorem contentLines_of_markerLines {markers : List Char} {lines : List (List Char)}
    (h : ∀ line ∈ lines, MarkerLine markers line) : contentLines markers lines = [] := by
  simpa [contentLines] using h

/-- Line `j` is the closest content line above line `i`, and its text is `line`. -/
structure ClosestAbove (markers : List Char) (lines : List (List Char)) (i j : Nat)
    (line : List Char) : Prop where
  above : j < i
  text : lines[j]? = some line
  content : ¬ MarkerLine markers line
  between : ∀ k, j < k → k < i → ∀ other, lines[k]? = some other → MarkerLine markers other

/-- Some lines end with their last content line and the marker lines below it. -/
theorem exists_last_content {markers : List Char} (lines : List (List Char))
    (h : contentLines markers lines ≠ []) :
    ∃ above line below, lines = above ++ line :: below ∧ ¬ MarkerLine markers line ∧
      ∀ other ∈ below, MarkerLine markers other := by
  induction lines with
  | nil => exact absurd rfl h
  | cons first rest ih =>
    by_cases hr : contentLines markers rest = []
    · have hbelow : ∀ other ∈ rest, MarkerLine markers other := by
        simpa [contentLines] using hr
      have hfirst : ¬ MarkerLine markers first := by
        intro hm
        rw [contentLines_cons_marker hm] at h
        exact h hr
      exact ⟨[], first, rest, rfl, hfirst, hbelow⟩
    · obtain ⟨above, line, below, rfl, hline, hbelow⟩ := ih hr
      exact ⟨first :: above, line, below, rfl, hline, hbelow⟩

/-- The content lines above line `i`, less one, number the closest of them in the clean text. -/
theorem closestAbove_of_content {markers : List Char} {lines : List (List Char)} {i : Nat}
    (hi : i < lines.length) (h : contentLines markers (lines.take i) ≠ []) :
    ∃ j line, ClosestAbove markers lines i j line ∧
      (contentLines markers lines)[(contentLines markers (lines.take i)).length - 1]? =
        some line := by
  obtain ⟨above, line, below, htake, hline, hbelow⟩ := exists_last_content _ h
  have hlines : lines = above ++ line :: below ++ lines.drop i := by
    rw [← htake, List.take_append_drop]
  have hlen : above.length + 1 + below.length = i := by
    have := congrArg List.length htake
    simp only [List.length_take, List.length_append, List.length_cons] at this
    omega
  have hnone := contentLines_of_markerLines hbelow
  refine ⟨above.length, line, ⟨by omega, ?_, hline, ?_⟩, ?_⟩
  · rw [hlines]; simp
  · intro k hjk hki other hk
    rw [hlines, List.append_assoc, List.getElem?_append_right (by omega),
      List.cons_append, List.getElem?_cons, if_neg (by omega),
      List.getElem?_append_left (by omega)] at hk
    exact hbelow other (List.mem_of_getElem? hk)
  · have hcount : contentLines markers (lines.take i) = contentLines markers above ++ [line] := by
      rw [htake, contentLines_append, contentLines_cons_content hline, hnone]
    rw [hcount, hlines, contentLines_append, ← htake, hcount]
    simp

/-! ## Marks -/

/-- Character `c` is marked at `p`: it stands on a marker line at column `p.character`, and
`p.line` is the number of content lines above that line, less one. -/
def MarkedAt (markers : List Char) (lines : List (List Char)) (c : Char) (p : Position) : Prop :=
  ∃ i text, lines[i]? = some text ∧ MarkerLine markers text ∧ text[p.character]? = some c ∧
    p.line = (contentLines markers (lines.take i)).length - 1

/-- A marked character and its position. -/
abbrev Mark := Char × Position

/-- The marks of a marker line from a column on; the line annotates the content line `target`. -/
def lineMarks (markers : List Char) (target : Nat) : Nat → List Char → List Mark
  | _, [] => []
  | column, c :: rest =>
    if c ∈ markers then (c, ⟨target, column⟩) :: lineMarks markers target (column + 1) rest
    else lineMarks markers target (column + 1) rest

/-- The marks of some lines in reading order; `kept` content lines come before. -/
def marks (markers : List Char) : Nat → List (List Char) → List Mark
  | _, [] => []
  | kept, line :: rest =>
    if MarkerLine markers line then lineMarks markers (kept - 1) 0 line ++ marks markers kept rest
    else marks markers (kept + 1) rest

theorem marks_cons_marker {markers line : List Char} (h : MarkerLine markers line) (kept : Nat)
    (rest : List (List Char)) :
    marks markers kept (line :: rest) =
      lineMarks markers (kept - 1) 0 line ++ marks markers kept rest := by
  simp [marks, h]

theorem marks_cons_content {markers line : List Char} (h : ¬ MarkerLine markers line) (kept : Nat)
    (rest : List (List Char)) :
    marks markers kept (line :: rest) = marks markers (kept + 1) rest := by
  simp [marks, h]

/-- Content lines of the first part count for the second. -/
theorem marks_append (markers : List Char) (kept : Nat) (above below : List (List Char)) :
    marks markers kept (above ++ below) =
      marks markers kept above ++
        marks markers (kept + (contentLines markers above).length) below := by
  induction above generalizing kept with
  | nil => simp [marks, contentLines]
  | cons line rest ih =>
    rw [List.cons_append]
    by_cases h : MarkerLine markers line
    · rw [marks_cons_marker h, marks_cons_marker h, contentLines_cons_marker h, ih,
        List.append_assoc]
    · rw [marks_cons_content h, marks_cons_content h, contentLines_cons_content h, ih,
        List.length_cons, Nat.add_right_comm, Nat.add_assoc]

/-- Marker lines below one another mark one content line. -/
theorem marks_of_markerLines {markers : List Char} (kept : Nat) {lines : List (List Char)}
    (h : ∀ line ∈ lines, MarkerLine markers line) :
    marks markers kept lines = lines.flatMap (lineMarks markers (kept - 1) 0) := by
  induction lines with
  | nil => rfl
  | cons line rest ih =>
    rw [marks_cons_marker (h line List.mem_cons_self),
      ih fun l hl => h l (List.mem_cons_of_mem _ hl), List.flatMap_cons]

theorem mem_lineMarks {markers : List Char} {target column : Nat} {text : List Char} {c : Char}
    {p : Position} :
    (c, p) ∈ lineMarks markers target column text ↔
      c ∈ markers ∧ p.line = target ∧ column ≤ p.character ∧
        text[p.character - column]? = some c := by
  induction text generalizing column with
  | nil => simp [lineMarks]
  | cons d rest ih =>
    -- The mark is that of the first character, or the column is further right.
    have hstep : (c, p) ∈ lineMarks markers target column (d :: rest) ↔
        (d ∈ markers ∧ c = d ∧ p = ⟨target, column⟩) ∨
          (c, p) ∈ lineMarks markers target (column + 1) rest := by
      by_cases hd : d ∈ markers <;> simp [lineMarks, hd]
    obtain ⟨l, k⟩ := p
    rw [hstep, ih]
    simp only [Position.mk.injEq]
    constructor
    · rintro (⟨hd, rfl, rfl, rfl⟩ | ⟨hc, rfl, hle, hget⟩)
      · simp [hd]
      · refine ⟨hc, rfl, by omega, ?_⟩
        rw [List.getElem?_cons, if_neg (by omega), ← hget]
        congr 1
    · rintro ⟨hc, rfl, hle, hget⟩
      rcases Nat.eq_or_lt_of_le hle with rfl | hlt
      · left
        simp at hget
        exact ⟨hget ▸ hc, hget.symm, rfl, rfl⟩
      · right
        rw [List.getElem?_cons, if_neg (by omega)] at hget
        refine ⟨hc, rfl, hlt, ?_⟩
        rw [← hget]
        congr 1

/-- The marks below `kept` content lines, line by line. -/
theorem mem_marks_from {markers : List Char} {kept : Nat} {lines : List (List Char)} {c : Char}
    {p : Position} :
    (c, p) ∈ marks markers kept lines ↔
      c ∈ markers ∧ ∃ i text, lines[i]? = some text ∧ MarkerLine markers text ∧
        text[p.character]? = some c ∧
        p.line = kept + (contentLines markers (lines.take i)).length - 1 := by
  induction lines generalizing kept with
  | nil => simp [marks]
  | cons first rest ih =>
    by_cases hf : MarkerLine markers first
    · rw [marks_cons_marker hf, List.mem_append, mem_lineMarks, ih]
      constructor
      · rintro (⟨hc, hl, -, hget⟩ | ⟨hc, i, text, hi, hm, hget, hl⟩)
        · exact ⟨hc, 0, first, rfl, hf, by simpa using hget, by simpa [contentLines] using hl⟩
        · exact ⟨hc, i + 1, text, hi, hm, hget, by
            rw [List.take_succ_cons, contentLines_cons_marker hf]; exact hl⟩
      · rintro ⟨hc, i, text, hi, hm, hget, hl⟩
        cases i with
        | zero =>
          obtain rfl : first = text := by simpa using hi
          exact .inl ⟨hc, by simpa [contentLines] using hl, Nat.zero_le _, by simpa using hget⟩
        | succ i =>
          rw [List.take_succ_cons, contentLines_cons_marker hf] at hl
          exact .inr ⟨hc, i, text, by simpa using hi, hm, hget, hl⟩
    · rw [marks_cons_content hf, ih]
      constructor
      · rintro ⟨hc, i, text, hi, hm, hget, hl⟩
        refine ⟨hc, i + 1, text, hi, hm, hget, ?_⟩
        rw [List.take_succ_cons, contentLines_cons_content hf, List.length_cons]
        omega
      · rintro ⟨hc, i, text, hi, hm, hget, hl⟩
        cases i with
        | zero =>
          obtain rfl : first = text := by simpa using hi
          exact absurd hm hf
        | succ i =>
          rw [List.take_succ_cons, contentLines_cons_content hf, List.length_cons] at hl
          exact ⟨hc, i, text, by simpa using hi, hm, hget, by omega⟩

/-- **The listed marks are the marked positions** of the characters that are markers. -/
theorem mem_marks {markers : List Char} {lines : List (List Char)} {c : Char} {p : Position} :
    (c, p) ∈ marks markers 0 lines ↔ c ∈ markers ∧ MarkedAt markers lines c p := by
  rw [mem_marks_from]
  simp [MarkedAt]

/-- A character is marked somewhere exactly if it stands on a marker line. -/
theorem exists_markedAt_iff {markers : List Char} {lines : List (List Char)} {c : Char} :
    (∃ p, MarkedAt markers lines c p) ↔ ∃ line ∈ lines, MarkerLine markers line ∧ c ∈ line := by
  constructor
  · rintro ⟨p, i, line, hi, hm, hget, -⟩
    exact ⟨line, List.mem_of_getElem? hi, hm, List.mem_of_getElem? hget⟩
  · rintro ⟨line, hl, hm, hc⟩
    obtain ⟨i, hi⟩ := List.mem_iff_getElem?.1 hl
    obtain ⟨column, hget⟩ := List.mem_iff_getElem?.1 hc
    exact ⟨⟨_, column⟩, i, line, hi, hm, hget, rfl⟩

end MarkLine
