import MarkLine.Proofs.Build
import MarkLine.Proofs.MarkerSet

/-!
# Scanning again

A line that is a marker line stays one when there are more markers (`markerLine_mono`). Two things
follow for scans of one text.

A clean source holds no marker line for any of the markers that it was scanned for, so a second scan
finds nothing in it and leaves it as it is. A text that holds no marker line is its own clean
source, and no other text is (`scan_leaves_clean_text`). The code of a built case and its outputs
are such clean sources.

With more markers a scan keeps fewer lines, and scanning for some of the markers first changes
nothing about the lines that are kept in the end. The other markers make no difference at all
exactly if none of them is found (`scan_more_markers`).
-/

namespace MarkLine

section
variable {markers others line : List Char} {lines : List (List Char)}

/-! ## More and fewer markers -/

theorem markerLine_mono (h : others ⊆ markers) (hline : MarkerLine others line) :
    MarkerLine markers line := by
  obtain ⟨⟨c, hc, hmarker⟩, hall⟩ := hline
  exact ⟨⟨c, hc, h hmarker⟩, fun d hd => (hall d hd).imp_left fun hd => h hd⟩

theorem isBlank_of_subset (h : others ⊆ markers) (hm : ∀ c ∈ markers, Text.isBlank c = false) :
    ∀ c ∈ others, Text.isBlank c = false :=
  fun c hc => hm c (h hc)

/-- Lines that are dropped for fewer markers are dropped for more of them anyway. -/
theorem contentLines_contentLines (h : others ⊆ markers) (lines : List (List Char)) :
    contentLines markers (contentLines others lines) = contentLines markers lines := by
  rw [contentLines, contentLines, contentLines, List.filter_filter]
  refine List.filter_congr fun line _ => ?_
  have hmono : ¬ MarkerLine markers line → ¬ MarkerLine others line := mt (markerLine_mono h)
  by_cases hline : MarkerLine markers line
  · simp [hline]
  · simp [hline, hmono hline]

theorem contentLines_sublist (h : others ⊆ markers) (lines : List (List Char)) :
    (contentLines markers lines).Sublist (contentLines others lines) := by
  rw [← contentLines_contentLines h]
  exact List.filter_sublist

/-! ## Texts without marker lines -/

theorem contentLines_eq_self_iff :
    contentLines markers lines = lines ↔ ∀ line ∈ lines, ¬ MarkerLine markers line := by
  simp [contentLines]

theorem marks_of_contentLines (h : ∀ line ∈ lines, ¬ MarkerLine markers line) (kept : Nat) :
    marks markers kept lines = [] := by
  induction lines generalizing kept with
  | nil => rfl
  | cons line rest ih =>
    rw [marks_cons_content (h line List.mem_cons_self)]
    exact ih (fun l hl => h l (List.mem_cons_of_mem _ hl)) (kept + 1)

end

section
variable {source : String} {markers others : List Char} {s : Scan}

/-- A text without marker lines is its own clean source. -/
theorem scan_eq_self (hm : ∀ c ∈ markers, Text.isBlank c = false)
    (h : ∀ line ∈ linesOf source, ¬ MarkerLine markers line) :
    scan source markers = .ok { source, regions := [] } := by
  have hclean : textOf (contentLines markers (linesOf source)) = source := by
    rw [contentLines_eq_self_iff.2 h, textOf_linesOf]
  rw [scan_eq_ok hm (h _ (firstLine_mem source)), hclean, marks_of_contentLines h]
  rfl

/-- So a scan of such a text finds nothing and drops nothing. -/
theorem eq_of_scan_content (h : scan source markers = .ok s)
    (hnone : ∀ line ∈ linesOf source, ¬ MarkerLine markers line) :
    s = { source, regions := [] } := by
  obtain ⟨hm, -, -⟩ := scan_eq_ok_iff.1 h
  rw [scan_eq_self hm hnone] at h
  exact (Except.ok.inj h).symm

theorem region_eq_none_iff {c : Char} : s.region c = none ↔ c ∉ s.markers := by
  rw [Scan.region, List.lookup_eq_none_iff, Scan.markers, List.mem_map]
  constructor
  · rintro hne ⟨entry, hentry, rfl⟩
    simpa using hne entry hentry
  · intro hmem entry hentry
    simpa using fun heq : c = entry.1 => hmem ⟨entry, hentry, heq.symm⟩

/-- The markers found are those that stand on a marker line. -/
theorem mem_markers_of_scan (h : scan source markers = .ok s) {c : Char} :
    c ∈ s.markers ↔
      c ∈ markers ∧ ∃ line ∈ linesOf source, MarkerLine markers line ∧ c ∈ line := by
  rw [← not_iff_not, ← region_eq_none_iff, (reads_of_scan h).absent c]
  by_cases hc : c ∈ markers <;> simp [hc]

/-- Nothing is found exactly if there is no marker line: a marker line holds a marker. -/
theorem regions_eq_nil_iff (h : scan source markers = .ok s) :
    s.regions = [] ↔ ∀ line ∈ linesOf source, ¬ MarkerLine markers line := by
  constructor
  · intro hnone line hline hm
    obtain ⟨c, hc, hmarker⟩ := hm.1
    have hfound : c ∈ s.markers := (mem_markers_of_scan h).2 ⟨hmarker, line, hline, hm, hc⟩
    simp [Scan.markers, hnone] at hfound
  · intro hnone
    rw [eq_of_scan_content h hnone]

/-- Nothing is dropped exactly if there is no marker line. -/
theorem source_eq_iff (h : scan source markers = .ok s) :
    s.source = source ↔ ∀ line ∈ linesOf source, ¬ MarkerLine markers line := by
  constructor
  · intro hsame
    have hclean := (reads_of_scan h).clean
    rw [hsame] at hclean
    exact contentLines_eq_self_iff.1 hclean.symm
  · intro hnone
    rw [eq_of_scan_content h hnone]

/-- A clean source is left as it is by a scan for any of its markers. -/
theorem scan_clean (h : scan source markers = .ok s) (hsub : others ⊆ markers) :
    scan s.source others = .ok { source := s.source, regions := [] } := by
  obtain ⟨hm, -, -⟩ := scan_eq_ok_iff.1 h
  refine scan_eq_self (isBlank_of_subset hsub hm) fun line hline => ?_
  rw [(reads_of_scan h).clean, mem_contentLines] at hline
  exact mt (markerLine_mono hsub) hline.2

end

/-! ## Built cases -/

/-- The texts of an expected fix, pass by pass. -/
def Fixed.texts : Fixed → List String
  | .single text => [text]
  | .passes texts => texts

namespace MarkedCase

theorem scan_of_strip {text clean : String} (h : strip text = .ok clean) :
    ∃ s, scan text [defaultMarker] = .ok s ∧ s.source = clean := by
  by_cases horphan : MarkerLine [defaultMarker] (firstLine text)
  · rw [strip_eq_orphan horphan] at h
    cases h
  · exact ⟨_, scan_eq_ok isBlank_defaultMarker horphan, (stripped_of_strip h).symm⟩

theorem strip_of_mem_stripAll {texts cleaned : List String} (h : stripAll texts = .ok cleaned)
    {clean : String} (hclean : clean ∈ cleaned) : ∃ text ∈ texts, strip text = .ok clean := by
  induction texts generalizing cleaned with
  | nil =>
    obtain rfl : [] = cleaned := by simpa [stripAll] using h
    simp at hclean
  | cons first rest ih =>
    simp only [stripAll, bind_eq_ok_iff, pure, Except.pure, Except.ok.injEq] at h
    obtain ⟨firstClean, hfirst, others, hrest, rfl⟩ := h
    rcases List.mem_cons.1 hclean with rfl | hothers
    · exact ⟨first, List.mem_cons_self, hfirst⟩
    · obtain ⟨text, htext, hstrip⟩ := ih hrest hothers
      exact ⟨text, List.mem_cons_of_mem _ htext, hstrip⟩

/-- Every expected text of a built case is an output text that was stripped. -/
theorem strip_of_mem_texts {m : MarkedCase} {c : FailingCase} (h : m.build = .ok c)
    {fixed : Fixed} (hfixed : c.output = some fixed) {clean : String}
    (hclean : clean ∈ fixed.texts) : ∃ text, strip text = .ok clean := by
  rcases fixed_eq_ok_iff.1 (fixed_of_build h) with
    ⟨-, -, hnone⟩ | ⟨text, single, -, -, hstrip, hsome⟩ | ⟨passes, -, -, hstrip, hsome⟩
  · rw [hfixed] at hnone
    cases hnone
  · obtain rfl : fixed = .single single := by simpa [hfixed] using hsome
    obtain rfl : clean = single := by simpa [Fixed.texts] using hclean
    exact ⟨text, hstrip⟩
  · obtain rfl : fixed = .passes passes := by simpa [hfixed] using hsome
    obtain ⟨text, -, hstrip⟩ := strip_of_mem_stripAll hstrip hclean
    exact ⟨text, hstrip⟩

end MarkedCase

/-- **Scanning leaves a clean text alone.** A second scan for any of the markers finds nothing and
drops nothing; and the first scan drops nothing exactly if it finds nothing, which is so exactly if
the text has no marker line. In particular the code of a built case is clean for all its markers,
and every expected output for the default marker. -/
theorem scan_leaves_clean_text :
    (∀ source markers s, scan source markers = .ok s →
      (∀ others, others ⊆ markers →
        scan s.source others = .ok { source := s.source, regions := [] }) ∧
      (s.source = source ↔ s.regions = []) ∧
      (s.regions = [] ↔ ∀ line ∈ linesOf source, ¬ MarkerLine markers line)) ∧
    ∀ (m : MarkedCase) (c : FailingCase), m.build = .ok c →
      (∀ others, others ⊆ m.messages.map (·.marker) →
        scan c.code others = .ok { source := c.code, regions := [] }) ∧
      ∀ fixed, c.output = some fixed → ∀ text ∈ fixed.texts,
        scan text [defaultMarker] = .ok { source := text, regions := [] } := by
  constructor
  · intro source markers s h
    refine ⟨fun others hsub => scan_clean h hsub, ?_, regions_eq_nil_iff h⟩
    rw [source_eq_iff h, regions_eq_nil_iff h]
  · intro m c h
    constructor
    · obtain ⟨markers, found, _, _, hmarkers, hscan, _, _, rfl⟩ := MarkedCase.build_eq_ok_iff.1 h
      obtain rfl := MarkedCase.markers_of_ok hmarkers
      exact fun others hsub => scan_clean hscan hsub
    · intro fixed hfixed text htext
      obtain ⟨original, hstrip⟩ := MarkedCase.strip_of_mem_texts h hfixed htext
      obtain ⟨s, hscan, rfl⟩ := MarkedCase.scan_of_strip hstrip
      exact scan_clean hscan (List.Subset.refl _)

/-- Two markers, one of which also stands in the code, and a fix in two passes, of which the first
is marked itself. -/
def markedPasses : MarkedCase :=
  { MarkedCase.multiple "two passes" "a ~b;;\n ~  ^^\n^"
      [{ messageId := "first" }, { marker := '^', messageId := "second" }] with
    outputs := ["a b;\n  ~", "b;"] }

def cleanPasses : FailingCase :=
  { name := "two passes", code := "a ~b;;", options := []
    errors := [⟨"first", none, ⟨1, 2, 1, 2⟩, none⟩, ⟨"second", none, ⟨1, 1, 1, 6⟩, none⟩]
    output := some (.passes ["a b;", "b;"]), filename := none, only := false }

/-- Its source is not clean and its code is; both expected texts are. -/
theorem cleanPasses_left_alone :
    ∃ s, scan markedPasses.source ['~', '^'] = .ok s ∧ ['^'] ⊆ ['~', '^'] ∧
      scan s.source ['^'] = .ok { source := s.source, regions := [] } ∧
      (s.source = markedPasses.source ↔ s.regions = []) ∧
      (s.regions = [] ↔
        ∀ line ∈ linesOf markedPasses.source, ¬ MarkerLine ['~', '^'] line) ∧
      s.regions.map (·.1) = ['~', '^'] ∧
      markedPasses.build = .ok cleanPasses ∧
      scan cleanPasses.code ['~'] = .ok { source := cleanPasses.code, regions := [] } ∧
      scan "a b;" ['~'] = .ok { source := "a b;", regions := [] } := by
  have hscan : scan markedPasses.source ['~', '^'] =
      .ok ⟨"a ~b;;", [('~', Region.point ⟨0, 1⟩), ('^', ⟨⟨0, 0⟩, ⟨0, 5⟩, ""⟩)]⟩ := rfl
  have hbuild : markedPasses.build = .ok cleanPasses := rfl
  have hsub : ['^'] ⊆ ['~', '^'] := by simp
  have hsub' : ['~'] ⊆ markedPasses.messages.map (·.marker) := by
    simp [markedPasses, MarkedCase.multiple, defaultMarker]
  obtain ⟨hclean, hsame, hnone⟩ := scan_leaves_clean_text.1 _ _ _ hscan
  obtain ⟨hcode, htexts⟩ := scan_leaves_clean_text.2 _ _ hbuild
  exact ⟨_, hscan, hsub, hclean _ hsub, hsame, hnone, rfl, hbuild, hcode _ hsub',
    htexts _ rfl "a b;" List.mem_cons_self⟩

/-! ## Scans of one text for more and fewer markers -/

section
variable {source : String} {markers more : List Char} {s found : Scan}

/-- A scan that succeeds with more markers succeeds with fewer. -/
theorem scan_fewer_markers (hsub : markers ⊆ more) (h : scan source more = .ok found) :
    ∃ s, scan source markers = .ok s := by
  obtain ⟨hm, hfirst, -⟩ := scan_eq_ok_iff.1 h
  exact ⟨_, scan_eq_ok (isBlank_of_subset hsub hm) (mt (markerLine_mono hsub) hfirst)⟩

/-- Scanning for fewer markers first leads to the same clean source. -/
theorem scan_in_stages (hsub : markers ⊆ more) (h : scan source more = .ok found)
    (hs : scan source markers = .ok s) :
    ∃ again, scan s.source more = .ok again ∧ again.source = found.source := by
  obtain ⟨hm, hfirst, rfl⟩ := scan_eq_ok_iff.1 h
  have hclean := (reads_of_scan hs).clean
  have hfirst' : firstLine s.source = firstLine source := by
    obtain ⟨rest, hlines⟩ := linesOf_eq_cons source
    rw [hlines, contentLines_cons_content (mt (markerLine_mono hsub) hfirst)] at hclean
    exact firstLine_eq hclean
  refine ⟨_, scan_eq_ok hm (hfirst' ▸ hfirst), ?_⟩
  simp only
  rw [hclean, contentLines_contentLines hsub]

/-- Markers of which none is found read every line as if they were not there. -/
theorem readAlike_of_not_found (hsub : markers ⊆ more) (h : scan source more = .ok found)
    (hnew : ∀ c ∈ more, c ∉ markers → c ∉ found.markers) :
    ∀ line ∈ linesOf source, ReadAlike more markers line := by
  intro line hline
  have hold : MarkerLine more line → ∀ c ∈ line, c ∈ more ↔ c ∈ markers := by
    intro hm c hc
    refine ⟨fun hmore => ?_, fun hmem => hsub hmem⟩
    by_contra hmem
    exact hnew c hmore hmem ((mem_markers_of_scan h).2 ⟨hmore, line, hline, hm, hc⟩)
  refine ⟨⟨fun hm => ?_, markerLine_mono hsub⟩, hold⟩
  have hiff := hold hm
  obtain ⟨⟨c, hc, hmore⟩, hall⟩ := hm
  exact ⟨⟨c, hc, (hiff c hc).1 hmore⟩, fun d hd => (hall d hd).imp_left (hiff d hd).1⟩

/-- More markers change nothing exactly if none of the new ones is found. -/
theorem scan_eq_iff_not_found (hsub : markers ⊆ more) (h : scan source more = .ok found)
    (hs : scan source markers = .ok s) :
    found = s ↔ ∀ c ∈ more, c ∉ markers → c ∉ found.markers := by
  constructor
  · rintro rfl c - hmem hfound
    exact hmem ((mem_markers_of_scan hs).1 hfound).1
  · intro hnew
    obtain ⟨hm, -, -⟩ := scan_eq_ok_iff.1 h
    have hsame := scan_congr_of_alike hm (isBlank_of_subset hsub hm)
      (readAlike_of_not_found hsub h hnew)
    rw [h, hs] at hsame
    exact Except.ok.inj hsame

end

/-- **More markers.** If a text is scanned for more markers, it is scanned for fewer of them too;
the lines that are kept for more are among those that are kept for fewer, in their order; both scans
are the same exactly if none of the new markers is found; and the clean source for fewer markers,
scanned again for more, gives the clean source for more. -/
theorem scan_more_markers {source : String} {markers more : List Char} (hsub : markers ⊆ more)
    {found : Scan} (h : scan source more = .ok found) :
    ∃ s, scan source markers = .ok s ∧
      (linesOf found.source).Sublist (linesOf s.source) ∧
      (found = s ↔ ∀ c ∈ more, c ∉ markers → c ∉ found.markers) ∧
      ∃ again, scan s.source more = .ok again ∧ again.source = found.source := by
  obtain ⟨s, hs⟩ := scan_fewer_markers hsub h
  refine ⟨s, hs, ?_, scan_eq_iff_not_found hsub h hs, scan_in_stages hsub h hs⟩
  rw [(reads_of_scan h).clean, (reads_of_scan hs).clean]
  exact contentLines_sublist hsub _

/-- A star as one more marker drops a line of a comment, and so the region of the other marker moves
up by one line. -/
theorem scan_more_markers_comment :
    ['~'] ⊆ ['~', '*'] ∧
      scan "/**\n *\n x\n ~" ['~', '*'] =
        .ok ⟨"/**\n x", [('*', Region.point ⟨0, 1⟩), ('~', Region.point ⟨1, 1⟩)]⟩ ∧
      scan "/**\n *\n x\n ~" ['~'] = .ok ⟨"/**\n *\n x", [('~', Region.point ⟨2, 1⟩)]⟩ ∧
      (linesOf "/**\n x").Sublist (linesOf "/**\n *\n x") ∧
      ∃ again, scan "/**\n *\n x" ['~', '*'] = .ok again ∧ again.source = "/**\n x" := by
  have hsub : ['~'] ⊆ ['~', '*'] := by simp
  have hmore : scan "/**\n *\n x\n ~" ['~', '*'] =
      .ok ⟨"/**\n x", [('*', Region.point ⟨0, 1⟩), ('~', Region.point ⟨1, 1⟩)]⟩ := rfl
  have hfewer : scan "/**\n *\n x\n ~" ['~'] =
      .ok ⟨"/**\n *\n x", [('~', Region.point ⟨2, 1⟩)]⟩ := rfl
  obtain ⟨s, hs, hlines, -, hstages⟩ := scan_more_markers hsub hmore
  obtain rfl := Except.ok.inj (hfewer.symm.trans hs)
  exact ⟨hsub, hmore, hfewer, hlines, hstages⟩

end MarkLine
