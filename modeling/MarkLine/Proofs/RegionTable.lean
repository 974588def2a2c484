import MarkLine.Proofs.Rescan

/-!
# The table of regions

A scan keeps one table for all markers: a mark widens the region of its marker if there is one, and
else goes to the end of the table as a region of its own. What the table of a finished scan is like
as a list, and how large the numbers in it can get, is the subject here (`table_of_scan`).

The markers stand in the order in which the annotated text brings them. Places in that text are not
the positions of the regions, which count content lines only; so the marks are listed a second time
by their places (`sightings`). They come in increasing order, hence what a list keeps at its first
occurrence it keeps in the order of first places (`exists_firsts`).

The numbers are bounded by the size of the text: a mark at line `l` and character `k` has more than
`l` lines above it, each ended by a line feed, and `k` characters before it on its own line
(`length_of_markedAt`).
-/

namespace MarkLine

/-! ## Places in the annotated text -/

/-- Character `c` stands on a marker line at a place of the annotated text. -/
def StandsAt (markers : List Char) (lines : List (List Char)) (c : Char) (place : Position) :
    Prop :=
  ∃ text, lines[place.line]? = some text ∧ MarkerLine markers text ∧
    text[place.character]? = some c

/-- Character `c` stands on a marker line before `d` does: of their first places, that of `c` comes
first. -/
def MetBefore (markers : List Char) (lines : List (List Char)) (c d : Char) : Prop :=
  ∃ p q, IsLeast {place | StandsAt markers lines c place} p ∧
    IsLeast {place | StandsAt markers lines d place} q ∧ p < q

/-- The marks of one line at their places; `number` lines of the annotated text come before. -/
def lineSightings (markers : List Char) (number : Nat) (line : List Char) : List Mark :=
  if MarkerLine markers line then lineMarks markers number 0 line else []

/-- The marks of some lines at their places in the annotated text; `above` lines come before. -/
def sightings (markers : List Char) (above : Nat) (lines : List (List Char)) : List Mark :=
  (lines.zipIdx above).flatMap fun numbered => lineSightings markers numbered.2 numbered.1

section
variable {markers : List Char}

theorem mem_lineSightings {number : Nat} {text : List Char} {c : Char} {place : Position} :
    (c, place) ∈ lineSightings markers number text ↔
      c ∈ markers ∧ MarkerLine markers text ∧ place.line = number ∧
        text[place.character]? = some c := by
  unfold lineSightings
  by_cases hm : MarkerLine markers text
  · rw [if_pos hm, mem_lineMarks]
    simp [hm]
  · simp [hm]

theorem mem_sightings {lines : List (List Char)} {c : Char} {place : Position} :
    (c, place) ∈ sightings markers 0 lines ↔ c ∈ markers ∧ StandsAt markers lines c place := by
  simp only [sightings, List.mem_flatMap, List.mem_zipIdx_iff_getElem?, mem_lineSightings]
  constructor
  · rintro ⟨⟨text, number⟩, htext, hc, hm, rfl, hget⟩
    exact ⟨hc, text, htext, hm, hget⟩
  · rintro ⟨hc, text, htext, hm, hget⟩
    exact ⟨(text, place.line), htext, hc, hm, rfl, hget⟩

/-- Marks of one line come from left to right. -/
theorem pairwise_lineMarks (target column : Nat) (line : List Char) :
    (lineMarks markers target column line).Pairwise fun a b => a.2 < b.2 := by
  induction line generalizing column with
  | nil => exact .nil
  | cons c rest ih =>
    rw [lineMarks]
    split
    · refine List.pairwise_cons.2 ⟨?_, ih (column + 1)⟩
      rintro ⟨d, p⟩ hp
      obtain ⟨-, hline, hcolumn, -⟩ := mem_lineMarks.1 hp
      rw [Position.lt_iff]
      simp only
      omega
    · exact ih (column + 1)

/-- Places come in increasing order. -/
theorem pairwise_sightings (above : Nat) (lines : List (List Char)) :
    (sightings markers above lines).Pairwise fun a b => a.2 < b.2 := by
  have hnumbers : (lines.zipIdx above).Pairwise fun a b => a.2 < b.2 := by
    rw [← List.pairwise_map (f := Prod.snd), List.zipIdx_map_snd]
    exact List.pairwise_lt_range'
  refine List.pairwise_flatMap.2 ⟨fun numbered _ => ?_, hnumbers.imp fun hlt => ?_⟩
  · unfold lineSightings
    split
    · exact pairwise_lineMarks _ _ _
    · exact .nil
  · rintro ⟨c, p⟩ hp ⟨d, q⟩ hq
    obtain ⟨-, -, hp, -⟩ := mem_lineSightings.1 hp
    obtain ⟨-, -, hq, -⟩ := mem_lineSightings.1 hq
    rw [Position.lt_iff]
    simp only
    omega

theorem map_fst_lineMarks (target column : Nat) (line : List Char) :
    (lineMarks markers target column line).map (·.1) = line.filter (· ∈ markers) := by
  induction line generalizing column with
  | nil => rfl
  | cons c rest ih => by_cases hc : c ∈ markers <;> simp [lineMarks, hc, ih]

/-- Marks and sightings are the same characters in the same order. -/
theorem map_fst_sightings (above kept : Nat) (lines : List (List Char)) :
    (sightings markers above lines).map (·.1) = (marks markers kept lines).map (·.1) := by
  induction lines generalizing above kept with
  | nil => rfl
  | cons line rest ih =>
    by_cases hm : MarkerLine markers line
    · rw [marks_cons_marker hm, List.map_append, map_fst_lineMarks, ← ih (above + 1)]
      simp [sightings, lineSightings, List.zipIdx_cons, hm, map_fst_lineMarks]
    · rw [marks_cons_content hm, ← ih (above + 1)]
      simp [sightings, lineSightings, List.zipIdx_cons, hm]

end

/-! ## First occurrences -/

/-- A later mark does not change where a character is first met. -/
theorem isLeast_concat {found : List Mark} {last : Mark} (h : ∀ mark ∈ found, mark.2 < last.2)
    {c : Char} {p : Position} (hp : IsLeast {r | (c, r) ∈ found} p) :
    IsLeast {r | (c, r) ∈ found ++ [last]} p := by
  refine ⟨List.mem_append_left _ hp.1, fun r hr => ?_⟩
  rcases List.mem_append.1 hr with hr | hr
  · exact hp.2 hr
  · obtain rfl : (c, r) = last := by simpa using hr
    exact (h _ hp.1).le

/-- Of marks in increasing order, those that bring a new character are in increasing order, and each
stands where its character is first met. -/
theorem exists_firsts {found : List Mark} (h : found.Pairwise fun a b => a.2 < b.2) :
    ∃ firsts : List Mark, firsts.map (·.1) = distinct (found.map (·.1)) ∧
      firsts.Pairwise (fun a b => a.2 < b.2) ∧
      ∀ mark ∈ firsts, IsLeast {r | (mark.1, r) ∈ found} mark.2 := by
  induction found using List.reverseRecOn with
  | nil => exact ⟨[], rfl, .nil, by simp⟩
  | append_singleton rest last ih =>
    obtain ⟨hrest, -, hlast⟩ := List.pairwise_append.1 h
    replace hlast : ∀ mark ∈ rest, mark.2 < last.2 := fun mark hmark =>
      hlast mark hmark last List.mem_cons_self
    obtain ⟨firsts, hmap, hsorted, hleast⟩ := ih hrest
    rw [List.map_append, List.map_singleton, distinct_concat]
    -- The last mark comes after all others, so it is a first one only if its character is new.
    by_cases hold : last.1 ∈ distinct (rest.map (·.1))
    · refine ⟨firsts, by rw [if_pos hold, hmap], hsorted, fun mark hmark => ?_⟩
      exact isLeast_concat hlast (hleast mark hmark)
    · refine ⟨firsts ++ [last], by simp [hold, hmap], ?_, fun mark hmark => ?_⟩
      · refine List.pairwise_append.2 ⟨hsorted, List.pairwise_singleton _ _, ?_⟩
        intro mark hmark other hother
        obtain rfl : other = last := by simpa using hother
        exact hlast mark (hleast mark hmark).1
      · rcases List.mem_append.1 hmark with hmark | hmark
        · exact isLeast_concat hlast (hleast mark hmark)
        · obtain rfl : mark = last := by simpa using hmark
          have hnew : ∀ r, (mark.1, r) ∉ rest := fun r hr =>
            hold (mem_distinct.2 (List.mem_map.2 ⟨_, hr, rfl⟩))
          have honly : {r | (mark.1, r) ∈ rest ++ [mark]} = {mark.2} := by
            ext r
            simp [hnew, Prod.ext_iff]
          rw [honly]
          exact isLeast_singleton

/-- **A scan lists its markers in the order in which the text brings them.** -/
theorem pairwise_markers_of_scan {source : String} {markers : List Char} {s : Scan}
    (h : scan source markers = .ok s) :
    s.markers.Pairwise (MetBefore markers (linesOf source)) := by
  obtain ⟨firsts, hmap, hsorted, hleast⟩ := exists_firsts (pairwise_sightings 0 (linesOf source))
  rw [map_fst_sightings 0 0, ← markers_of_scan h] at hmap
  have hfirst : ∀ mark ∈ firsts,
      IsLeast {place | StandsAt markers (linesOf source) mark.1 place} mark.2 := by
    intro mark hmark
    have hmem := hleast mark hmark
    have hc : mark.1 ∈ markers := (mem_sightings.1 hmem.1).1
    simpa [mem_sightings, hc] using hmem
  rw [← hmap, List.pairwise_map]
  exact hsorted.imp_of_mem fun {a b} ha hb hlt => ⟨a.2, b.2, hfirst a ha, hfirst b hb, hlt⟩

theorem ne_of_metBefore {markers : List Char} {lines : List (List Char)} {c d : Char}
    (h : MetBefore markers lines c d) : c ≠ d := by
  rintro rfl
  obtain ⟨p, q, hp, hq, hlt⟩ := h
  exact hlt.ne (hp.unique hq)

/-! ## Entries of the table -/

/-- **Step.** Marking leaves every message empty. -/
theorem message_mark {regions : Regions} (h : ∀ entry ∈ regions, entry.2.message = "")
    (marker : Char) (p : Position) :
    ∀ entry ∈ regions.mark marker p, entry.2.message = "" := by
  induction regions with
  | nil => simp [Regions.mark, Region.point]
  | cons first rest ih =>
    obtain ⟨c, region⟩ := first
    have hregion : region.message = "" := h _ List.mem_cons_self
    have hrest : ∀ entry ∈ rest, entry.2.message = "" := fun entry hentry =>
      h entry (List.mem_cons_of_mem _ hentry)
    intro entry hentry
    rw [Regions.mark] at hentry
    split at hentry
    · rcases List.mem_cons.1 hentry with rfl | hentry
      · exact hregion
      · exact hrest entry hentry
    · rcases List.mem_cons.1 hentry with rfl | hentry
      · exact hregion
      · exact ih hrest entry hentry

/-- **Run.** So do any number of marks. -/
theorem message_markAll {regions : Regions} (h : ∀ entry ∈ regions, entry.2.message = "")
    (found : List Mark) : ∀ entry ∈ regions.markAll found, entry.2.message = "" := by
  induction found generalizing regions with
  | nil => exact h
  | cons mark rest ih => exact ih (message_mark h mark.1 mark.2)

/-- In a table without duplicates every entry is the one that a look-up finds. -/
theorem region_of_mem {s : Scan} (h : s.markers.Nodup) {c : Char} {region : Region}
    (hmem : (c, region) ∈ s.regions) : s.region c = some region := by
  obtain ⟨before, after, hsplit⟩ := List.append_of_mem hmem
  refine List.lookup_eq_some_iff.2 ⟨before, after, hsplit, fun entry hentry => ?_⟩
  rw [Scan.markers, hsplit, List.map_append, List.map_cons, List.nodup_append] at h
  have hne := h.2.2 entry.1 (List.mem_map_of_mem hentry) c List.mem_cons_self
  simpa using Ne.symm hne

/-! ## The size of a text -/

theorem length_of_line {source : String} {i : Nat} {line : List Char}
    (h : (linesOf source)[i]? = some line) : i + line.length ≤ source.length := by
  have hle := Text.add_length_le_length_intercalate (a := '\n') h
  rwa [linesOf, List.intercalate_splitOn, String.length_toList] at hle

theorem length_of_markedAt {source : String} {markers : List Char}
    (hfirst : ¬ MarkerLine markers (firstLine source)) {c : Char} {p : Position}
    (hp : MarkedAt markers (linesOf source) c p) :
    (p.line + 1) + (p.character + 1) ≤ source.length := by
  obtain ⟨i, line, hi, hm, hget, hline⟩ := hp
  -- The mark is on line `i` of the text, and at least one of the `i` lines above is content.
  have hkept : 0 < (contentLines markers ((linesOf source).take i)).length :=
    List.length_pos_iff.2 (contentLines_take_ne_nil hfirst hi hm)
  have hkept_le : (contentLines markers ((linesOf source).take i)).length ≤ i :=
    (List.length_filter_le _ _).trans (List.length_take_le _ _)
  obtain ⟨hcolumn, -⟩ := List.getElem?_eq_some_iff.1 hget
  have hsize := length_of_line hi
  omega

/-- A character takes at least one byte. -/
theorem length_le_utf8ByteSize (source : String) : source.length ≤ source.utf8ByteSize := by
  have hchars : ∀ chars : List Char, chars.length ≤ (String.ofList chars).utf8ByteSize := by
    intro chars
    induction chars with
    | nil => simp
    | cons c rest ih =>
      have hc := c.utf8Size_pos
      rw [String.ofList_cons, String.utf8ByteSize_append, String.utf8ByteSize_singleton,
        List.length_cons]
      omega
  have hsource := hchars source.toList
  rwa [String.ofList_toList, String.length_toList] at hsource

/-! ## The table of a scan -/

/-- What a region of a scan is like, given the annotated text and the clean source. -/
structure Region.Bounded (source clean : String) (region : Region) : Prop where
  message : region.message = ""
  ordered : region.first ≤ region.last
  /-- It ends on a line of the clean source. -/
  inside : region.last.line < (linesOf clean).length
  /-- Counted from one, line and character of both ends together do not exceed the characters of the
  annotated text. -/
  size : ∀ p ∈ [region.first, region.last],
    (p.line + 1) + (p.character + 1) ≤ source.length
  /-- So neither overflows a machine word, as long as the bytes of the text can be counted in one.
  -/
  words : source.utf8ByteSize < USize.size → ∀ p ∈ [region.first, region.last],
    p.oneBased.1 < USize.size ∧ p.oneBased.2 < USize.size

/-- What the table of regions of a scan is like. -/
structure TableOf (markers : List Char) (source : String) (s : Scan) : Prop where
  nodup : s.markers.Nodup
  /-- The table has the markers that stand on marker lines and no others. -/
  mem_iff : ∀ c, c ∈ s.markers ↔
    c ∈ markers ∧ ∃ line ∈ linesOf source, MarkerLine markers line ∧ c ∈ line
  /-- They are listed by their first places in the annotated text. -/
  inOrder : s.markers.Pairwise (MetBefore markers (linesOf source))
  bounded : ∀ entry ∈ s.regions, entry.2.Bounded source s.source

theorem bounded_of_mem {source : String} {markers : List Char} {s : Scan}
    (h : scan source markers = .ok s) (hnodup : s.markers.Nodup) {c : Char} {region : Region}
    (hmem : (c, region) ∈ s.regions) : region.Bounded source s.source := by
  have hregion := region_of_mem hnodup hmem
  have hreads := reads_of_scan h
  obtain ⟨hordered, hinside⟩ := region_bounds hreads hregion
  obtain ⟨-, hfirst, rfl⟩ := scan_eq_ok_iff.1 h
  have hsize : ∀ p ∈ [region.first, region.last],
      (p.line + 1) + (p.character + 1) ≤ source.length := by
    obtain ⟨hleast, hgreatest⟩ := hreads.extent c region hregion
    intro p hp
    simp only [List.mem_cons, List.not_mem_nil, or_false] at hp
    rcases hp with rfl | rfl
    · exact length_of_markedAt hfirst hleast.1
    · exact length_of_markedAt hfirst hgreatest.1
  refine ⟨message_markAll (by simp) _ _ hmem, hordered, hinside, hsize, fun hwords p hp => ?_⟩
  have hp_size := hsize p hp
  have hbytes := length_le_utf8ByteSize source
  unfold Position.oneBased
  omega

/-- **The table of a scan.** It has one region for each marker that stands on a marker line, in the
order in which the annotated text brings the markers; and each region is bounded by the text. -/
theorem table_of_scan {source : String} {markers : List Char} {s : Scan}
    (h : scan source markers = .ok s) : TableOf markers source s := by
  have horder := pairwise_markers_of_scan h
  have hnodup : s.markers.Nodup := horder.imp ne_of_metBefore
  exact ⟨hnodup, fun c => mem_markers_of_scan h, horder, fun entry => bounded_of_mem h hnodup⟩

/-- The marker that is met first is not the one whose region starts first. -/
theorem table_of_crossing_markers :
    scan "foobar\n  ^ ~\n~" ['~', '^'] =
        .ok ⟨"foobar", [('^', ⟨⟨0, 2⟩, ⟨0, 2⟩, ""⟩), ('~', ⟨⟨0, 0⟩, ⟨0, 4⟩, ""⟩)]⟩ ∧
      TableOf ['~', '^'] "foobar\n  ^ ~\n~"
        ⟨"foobar", [('^', ⟨⟨0, 2⟩, ⟨0, 2⟩, ""⟩), ('~', ⟨⟨0, 0⟩, ⟨0, 4⟩, ""⟩)]⟩ := by
  have h : scan "foobar\n  ^ ~\n~" ['~', '^'] =
      .ok ⟨"foobar", [('^', ⟨⟨0, 2⟩, ⟨0, 2⟩, ""⟩), ('~', ⟨⟨0, 0⟩, ⟨0, 4⟩, ""⟩)]⟩ := rfl
  exact ⟨h, table_of_scan h⟩

end MarkLine
