import MarkLine.Proofs.MarkerSet
import Mathlib.Order.Bounds.Image

/-!
# Texts below one another

Two texts that can be scanned can be scanned as one, with a line feed between them. The second text
starts with a content line, so none of its marker lines reaches up into the first: its marks are
those it has on its own, moved down by the content lines of the first (`marks_below`). Every mark of
the first text comes before every mark of the second. So a region of the whole starts where it
starts in the first text and ends where it ends in the second, if it occurs there at all
(`scan_below`).
-/

namespace MarkLine

/-! ## Moving down -/

def Position.down (count : Nat) (p : Position) : Position := ⟨p.line + count, p.character⟩

def Mark.down (count : Nat) (mark : Mark) : Mark := (mark.1, mark.2.down count)

theorem map_fst_down (count : Nat) (found : List Mark) :
    (found.map (Mark.down count)).map (·.1) = found.map (·.1) := by
  simp [Mark.down]

theorem Position.monotone_down (count : Nat) : Monotone (Position.down count) := by
  intro p q h
  rw [Position.le_iff] at h ⊢
  simp only [Position.down]
  omega

/-- What stands below the first `count` lines comes after what stands on them. -/
theorem Position.le_down {count : Nat} {p : Position} (h : p.line < count) (q : Position) :
    p ≤ q.down count := by
  rw [Position.le_iff]
  simp only [Position.down]
  omega

section
variable {markers : List Char}

theorem lineMarks_down (count target column : Nat) (line : List Char) :
    lineMarks markers (target + count) column line =
      (lineMarks markers target column line).map (Mark.down count) := by
  induction line generalizing column with
  | nil => rfl
  | cons c rest ih =>
    by_cases hc : c ∈ markers
    · simp [lineMarks, hc, ih, Mark.down, Position.down]
    · simp [lineMarks, hc, ih]

/-- Below a content line, more content lines above move the marks down. -/
theorem marks_down (count : Nat) {kept : Nat} (hkept : 0 < kept) (lines : List (List Char)) :
    marks markers (kept + count) lines =
      (marks markers kept lines).map (Mark.down count) := by
  induction lines generalizing kept with
  | nil => rfl
  | cons line rest ih =>
    by_cases h : MarkerLine markers line
    · have htarget : kept + count - 1 = kept - 1 + count := by omega
      rw [marks_cons_marker h, marks_cons_marker h, ih hkept, htarget, lineMarks_down,
        List.map_append]
    · rw [marks_cons_content h, marks_cons_content h, Nat.add_right_comm, ih (Nat.succ_pos kept)]

/-- The marks of a text below `count` content lines are its own, moved down. -/
theorem marks_below {source : String} (h : ¬ MarkerLine markers (firstLine source)) (count : Nat) :
    marks markers count (linesOf source) =
      (marks markers 0 (linesOf source)).map (Mark.down count) := by
  obtain ⟨rest, hlines⟩ := linesOf_eq_cons source
  rw [hlines, marks_cons_content h, marks_cons_content h, Nat.add_comm count,
    marks_down count (Nat.succ_pos 0)]

end

/-! ## Regions of both texts -/

section
variable {upper lower : Set Position} {count : Nat} {p : Position}

/-- The first position of the upper text comes first. -/
theorem isLeast_union_down (hupper : ∀ q ∈ upper, q.line < count) (h : IsLeast upper p) :
    IsLeast (upper ∪ Position.down count '' lower) p := by
  refine ⟨.inl h.1, ?_⟩
  rintro q (hq | ⟨r, -, rfl⟩)
  · exact h.2 hq
  · exact Position.le_down (hupper p h.1) r

/-- The last position of the lower text comes last. -/
theorem isGreatest_union_down (hupper : ∀ q ∈ upper, q.line < count) (h : IsGreatest lower p) :
    IsGreatest (upper ∪ Position.down count '' lower) (p.down count) := by
  refine ⟨.inr ⟨p, h.1, rfl⟩, ?_⟩
  rintro q (hq | ⟨r, hr, rfl⟩)
  · exact Position.le_down (hupper q hq) p
  · exact Position.monotone_down count (h.2 hr)

end

theorem Hull.lookup_eq_none_iff {marked : Char → Position → Prop} {regions : Regions}
    (h : Hull marked regions) {c : Char} : regions.lookup c = none ↔ {p | marked c p} = ∅ := by
  rw [h.lookup_none, Set.eq_empty_iff_forall_notMem]
  rfl

/-- The regions of some marks and of others below them, from the regions of each. -/
theorem lookup_markAll_below {found : List Mark} (others : List Mark) {count : Nat}
    (hcount : ∀ c p, (c, p) ∈ found → p.line < count) (c : Char) :
    ((Regions.markAll [] (found ++ others.map (Mark.down count))).lookup c).map (·.first) =
        (((Regions.markAll [] found).lookup c).map (·.first)).or
          (((Regions.markAll [] others).lookup c).map (·.first.down count)) ∧
      ((Regions.markAll [] (found ++ others.map (Mark.down count))).lookup c).map (·.last) =
        (((Regions.markAll [] others).lookup c).map (·.last.down count)).or
          (((Regions.markAll [] found).lookup c).map (·.last)) := by
  have habove := hull_marks found
  have hbelow := hull_marks others
  have hjoined := hull_marks (found ++ others.map (Mark.down count))
  have hunion : {p | (c, p) ∈ found ++ others.map (Mark.down count)} =
      {p | (c, p) ∈ found} ∪ Position.down count '' {p | (c, p) ∈ others} := by
    ext p
    simp [Mark.down]
  have hnone := hjoined.lookup_eq_none_iff (c := c)
  rw [hunion, Set.union_empty_iff, Set.image_eq_empty, ← habove.lookup_eq_none_iff,
    ← hbelow.lookup_eq_none_iff] at hnone
  cases hj : List.lookup c (Regions.markAll [] (found ++ others.map _)) with
  | none =>
    obtain ⟨ha, hb⟩ := hnone.1 hj
    simp [ha, hb]
  | some region =>
    obtain ⟨hfirst, hlast⟩ := hjoined.lookup_some c region hj
    rw [hunion] at hfirst hlast
    cases ha : (Regions.markAll [] found).lookup c with
    | none =>
      rw [habove.lookup_eq_none_iff.1 ha, Set.empty_union] at hfirst hlast
      cases hb : (Regions.markAll [] others).lookup c with
      | none => simp [hnone.2 ⟨ha, hb⟩] at hj
      | some lower =>
        obtain ⟨hleast, hgreatest⟩ := hbelow.lookup_some c lower hb
        have hdown := Position.monotone_down count
        simp [hfirst.unique (hdown.map_isLeast hleast),
          hlast.unique (hdown.map_isGreatest hgreatest)]
    | some upper =>
      obtain ⟨hleast, hgreatest⟩ := habove.lookup_some c upper ha
      have hstart := hfirst.unique (isLeast_union_down (hcount c) hleast)
      cases hb : (Regions.markAll [] others).lookup c with
      | none =>
        rw [hbelow.lookup_eq_none_iff.1 hb, Set.image_empty, Set.union_empty] at hlast
        simp [hstart, hlast.unique hgreatest]
      | some lower =>
        obtain ⟨-, hend⟩ := hbelow.lookup_some c lower hb
        simp [hstart, hlast.unique (isGreatest_union_down (hcount c) hend)]

/-! ## Scans of both texts -/

/-- What a scan of two texts, one below the other, holds in terms of the scans of each. -/
structure Scan.Joins (above below joined : Scan) : Prop where
  source : joined.source = above.source ++ "\n" ++ below.source
  /-- A region starts in the upper text if it occurs there. -/
  first : ∀ c, (joined.region c).map (·.first) =
    ((above.region c).map (·.first)).or
      ((below.region c).map (·.first.down (linesOf above.source).length))
  /-- A region ends in the lower text if it occurs there. -/
  last : ∀ c, (joined.region c).map (·.last) =
    ((below.region c).map (·.last.down (linesOf above.source).length)).or
      ((above.region c).map (·.last))
  /-- The markers of the upper text come first, then the new ones of the lower text. -/
  markers : joined.markers = above.markers ++ below.markers.filter (fun c => c ∉ above.markers)

theorem firstLine_join (above below : String) :
    firstLine (above ++ "\n" ++ below) = firstLine above := by
  obtain ⟨rest, hlines⟩ := linesOf_eq_cons above
  have hjoin := linesOf_join above below
  rw [hlines, List.cons_append] at hjoin
  exact firstLine_eq hjoin

section
variable {markers : List Char} {above below : String} {upper lower : Scan}

/-- The content lines of both texts, joined, are the clean sources of both. -/
theorem clean_join (hupper : scan above markers = .ok upper)
    (hlower : scan below markers = .ok lower) :
    textOf (contentLines markers (linesOf (above ++ "\n" ++ below))) =
      upper.source ++ "\n" ++ lower.source := by
  obtain ⟨-, hfirst, rfl⟩ := scan_eq_ok_iff.1 hupper
  obtain ⟨-, hfirst', rfl⟩ := scan_eq_ok_iff.1 hlower
  rw [linesOf_join, contentLines_append,
    textOf_append (contentLines_ne_nil hfirst) (contentLines_ne_nil hfirst')]

/-- The marks of both texts: those of the upper one, then those of the lower one moved down. -/
theorem marks_join (hupper : scan above markers = .ok upper)
    (hlower : scan below markers = .ok lower) :
    marks markers 0 (linesOf (above ++ "\n" ++ below)) =
      marks markers 0 (linesOf above) ++
        (marks markers 0 (linesOf below)).map (Mark.down (linesOf upper.source).length) := by
  obtain ⟨-, hfirst, -⟩ := scan_eq_ok_iff.1 hlower
  rw [linesOf_join, marks_append, Nat.zero_add, marks_below hfirst, (reads_of_scan hupper).clean]

/-- Every mark of a text is on a line of its clean source. -/
theorem line_lt_of_mem_marks (h : scan above markers = .ok upper) {c : Char} {p : Position}
    (hp : (c, p) ∈ marks markers 0 (linesOf above)) : p.line < (linesOf upper.source).length := by
  have hhull := hull_of_scan h
  cases hregion : upper.region c with
  | none => exact absurd hp ((hhull.lookup_none c).1 hregion p)
  | some region =>
    obtain ⟨-, hgreatest⟩ := hhull.lookup_some c region hregion
    have hle := Position.le_iff.1 (hgreatest.2 hp)
    obtain ⟨-, hlt⟩ := region_bounds (reads_of_scan h) hregion
    omega

theorem regions_of_scan (h : scan above markers = .ok upper) :
    upper.regions = Regions.markAll [] (marks markers 0 (linesOf above)) := by
  obtain ⟨-, -, rfl⟩ := scan_eq_ok_iff.1 h
  rfl

end

/-- **Scanning is compositional.** Two texts that can be scanned can be scanned one below the other,
and the result is put together from the results of both. -/
theorem scan_below {markers : List Char} {above below : String} {upper lower : Scan}
    (hupper : scan above markers = .ok upper) (hlower : scan below markers = .ok lower) :
    ∃ joined, scan (above ++ "\n" ++ below) markers = .ok joined ∧ upper.Joins lower joined := by
  obtain ⟨hm, hfirst, -⟩ := scan_eq_ok_iff.1 hupper
  have hjoined := scan_eq_ok hm (firstLine_join above below ▸ hfirst)
  have hextent := lookup_markAll_below (marks markers 0 (linesOf below))
    fun c p hp => line_lt_of_mem_marks hupper hp
  rw [← marks_join hupper hlower, ← regions_of_scan hupper, ← regions_of_scan hlower] at hextent
  refine ⟨_, hjoined, clean_join hupper hlower, fun c => (hextent c).1, fun c => (hextent c).2, ?_⟩
  rw [markers_of_scan hjoined, marks_join hupper hlower, List.map_append, map_fst_down,
    distinct_append, ← markers_of_scan hupper, ← markers_of_scan hlower]

/-- A marker of both texts and a marker of the lower one. -/
theorem scan_below_two_texts :
    scan "foo\n  ~" ['~', '^'] = .ok ⟨"foo", [('~', Region.point ⟨0, 2⟩)]⟩ ∧
      scan "bar\n ^\n~" ['~', '^'] =
        .ok ⟨"bar", [('^', Region.point ⟨0, 1⟩), ('~', Region.point ⟨0, 0⟩)]⟩ ∧
      ∃ joined, scan ("foo\n  ~" ++ "\n" ++ "bar\n ^\n~") ['~', '^'] = .ok joined ∧
        joined.source = "foo\nbar" ∧ joined.markers = ['~', '^'] ∧
        (joined.region '~').map (·.first) = some ⟨0, 2⟩ ∧
        (joined.region '~').map (·.last) = some ⟨1, 0⟩ := by
  have hupper : scan "foo\n  ~" ['~', '^'] = .ok ⟨"foo", [('~', Region.point ⟨0, 2⟩)]⟩ := rfl
  have hlower : scan "bar\n ^\n~" ['~', '^'] =
      .ok ⟨"bar", [('^', Region.point ⟨0, 1⟩), ('~', Region.point ⟨0, 0⟩)]⟩ := rfl
  obtain ⟨joined, hjoined, hjoins⟩ := scan_below hupper hlower
  exact ⟨hupper, hlower, joined, hjoined, hjoins.source, hjoins.markers, hjoins.first '~',
    hjoins.last '~'⟩

end MarkLine
