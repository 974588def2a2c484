import MarkLine.Proofs.Scan

/-!
# Drawing and scanning

The other way round: from a text and the segments that each marker is to cover, draw the annotated
text. A segment becomes a marker line of its own below its content line, and the segments of one
content line are stacked in any order.

Scanning undoes drawing (`scan_draw`). The drawn lines are marker lines and the others are not, so
the clean source is the text; and the marks of a marker are the positions that its segments cover
(`mem_marks_drawLines`), so its region runs from the least start to the greatest end of them.
-/

namespace MarkLine

/-- A stretch of a content line, at least one character long. -/
structure Segment where
  line : Nat
  column : Nat
  length : Nat
  nonempty : 0 < length
  deriving DecidableEq

namespace Segment

def first (s : Segment) : Position := ⟨s.line, s.column⟩

def last (s : Segment) : Position := ⟨s.line, s.column + s.length - 1⟩

/-- The positions of a segment. -/
def Covers (s : Segment) (p : Position) : Prop :=
  p.line = s.line ∧ s.column ≤ p.character ∧ p.character < s.column + s.length

theorem covers_first (s : Segment) : s.Covers s.first := by
  have := s.nonempty
  exact ⟨rfl, Nat.le_refl _, by simp [first]; omega⟩

theorem covers_last (s : Segment) : s.Covers s.last := by
  have := s.nonempty
  exact ⟨rfl, by simp [last]; omega, by simp [last]; omega⟩

theorem first_le {s : Segment} {p : Position} (h : s.Covers p) : s.first ≤ p :=
  Position.le_iff.2 (.inr ⟨h.1.symm, h.2.1⟩)

theorem le_last {s : Segment} {p : Position} (h : s.Covers p) : p ≤ s.last := by
  have hlt := h.2.2
  exact Position.le_iff.2 (.inr ⟨h.1, by simp [last]; omega⟩)

/-- A segment drawn with a marker: blanks up to its column, then the marker over its length. -/
def drawn (s : Segment) (marker : Char) : List Char :=
  List.replicate s.column ' ' ++ List.replicate s.length marker

theorem markerLine_drawn {markers : List Char} {marker : Char} (h : marker ∈ markers)
    (s : Segment) : MarkerLine markers (s.drawn marker) := by
  refine ⟨⟨marker, ?_, h⟩, fun c hc => ?_⟩
  · exact List.mem_append_right _ (List.mem_replicate.2 ⟨Nat.ne_of_gt s.nonempty, rfl⟩)
  · rcases List.mem_append.1 hc with hc | hc
    · rw [List.eq_of_mem_replicate hc]
      exact .inr (by decide)
    · rw [List.eq_of_mem_replicate hc]
      exact .inl h

theorem newline_not_mem_drawn {marker : Char} (h : Text.isBlank marker = false) (s : Segment) :
    '\n' ∉ s.drawn marker := by
  intro hc
  rcases List.mem_append.1 hc with hc | hc
  · exact absurd (List.eq_of_mem_replicate hc) (by decide)
  · rw [← List.eq_of_mem_replicate hc] at h
    exact absurd h (by decide)

/-- What stands on a drawn line apart from blanks is the marker, at the columns of the segment. -/
theorem getElem?_drawn {marker c : Char} (hc : Text.isBlank c = false) (s : Segment) (k : Nat) :
    (s.drawn marker)[k]? = some c ↔ c = marker ∧ s.column ≤ k ∧ k < s.column + s.length := by
  have hspace : ' ' ≠ c := by
    rintro rfl
    exact absurd hc (by decide)
  simp only [drawn, List.getElem?_append, List.length_replicate, List.getElem?_replicate]
  by_cases hk : k < s.column
  · simp [hk, hspace]
  · by_cases hlt : k - s.column < s.length
    · simp only [hk, hlt, if_true, if_false, Option.some.injEq]
      constructor
      · rintro rfl
        exact ⟨rfl, by omega, by omega⟩
      · rintro ⟨rfl, -, -⟩
        rfl
    · simp only [hk, hlt, if_false, reduceCtorEq, false_iff]
      omega

/-- The marks of a drawn line are the positions of its segment. -/
theorem mem_lineMarks_drawn {markers : List Char} {marker c : Char} {p : Position}
    (hm : ∀ c ∈ markers, Text.isBlank c = false) (hmarker : marker ∈ markers) (s : Segment) :
    (c, p) ∈ lineMarks markers s.line 0 (s.drawn marker) ↔ c = marker ∧ s.Covers p := by
  rw [mem_lineMarks, Nat.sub_zero]
  constructor
  · rintro ⟨hc, hline, -, hget⟩
    obtain ⟨rfl, hle, hlt⟩ := (getElem?_drawn (hm c hc) s _).1 hget
    exact ⟨rfl, hline, hle, hlt⟩
  · rintro ⟨rfl, hline, hle, hlt⟩
    exact ⟨hmarker, hline, Nat.zero_le _, (getElem?_drawn (hm c hmarker) s _).2 ⟨rfl, hle, hlt⟩⟩

end Segment

/-! ## The drawn text -/

/-- A marker and a segment that it is to cover. -/
abbrev Stroke := Char × Segment

def strokes (markers : List Char) (segments : Char → List Segment) : List Stroke :=
  markers.flatMap fun c => (segments c).map fun s => (c, s)

/-- Each stack holds the strokes of its line, in any order. -/
def Stacks (markers : List Char) (segments : Char → List Segment) (stack : Nat → List Stroke) :
    Prop :=
  ∀ i, (stack i).Perm ((strokes markers segments).filter fun x => x.2.line = i)

/-- Content lines, counted from `i` on, each with its stack of drawn strokes below it. -/
def drawLines (stack : Nat → List Stroke) : Nat → List (List Char) → List (List Char)
  | _, [] => []
  | i, line :: rest =>
    line :: ((stack i).map fun x => x.2.drawn x.1) ++ drawLines stack (i + 1) rest

/-- A text with the strokes of `stack i` drawn below its line `i`. -/
def draw (text : String) (stack : Nat → List Stroke) : String :=
  textOf (drawLines stack 0 (linesOf text))

section
variable {markers : List Char} {segments : Char → List Segment} {stack : Nat → List Stroke}

theorem mem_stack (h : Stacks markers segments stack) {i : Nat} {x : Stroke} :
    x ∈ stack i ↔ x.1 ∈ markers ∧ x.2 ∈ segments x.1 ∧ x.2.line = i := by
  obtain ⟨c, s⟩ := x
  rw [(h i).mem_iff]
  simp [strokes, and_assoc]

theorem markerLine_of_mem_stack (h : Stacks markers segments stack) (i : Nat) :
    ∀ line ∈ (stack i).map fun x => x.2.drawn x.1, MarkerLine markers line := by
  intro line hline
  obtain ⟨x, hx, rfl⟩ := List.mem_map.1 hline
  exact x.2.markerLine_drawn ((mem_stack h).1 hx).1

/-- The content lines of a drawing are the lines it was drawn below. -/
theorem contentLines_drawLines (h : Stacks markers segments stack) (i : Nat)
    {lines : List (List Char)} (hlines : ∀ line ∈ lines, ¬ MarkerLine markers line) :
    contentLines markers (drawLines stack i lines) = lines := by
  induction lines generalizing i with
  | nil => rfl
  | cons line rest ih =>
    have hrest := ih (i + 1) fun l hl => hlines l (List.mem_cons_of_mem _ hl)
    rw [drawLines, List.cons_append, contentLines_cons_content (hlines line List.mem_cons_self),
      contentLines_append, contentLines_of_markerLines (markerLine_of_mem_stack h i), hrest,
      List.nil_append]

/-- **The marks of a drawing** are the positions that its strokes cover. -/
theorem mem_marks_drawLines (hm : ∀ c ∈ markers, Text.isBlank c = false)
    (h : Stacks markers segments stack) (i : Nat) {lines : List (List Char)}
    (hlines : ∀ line ∈ lines, ¬ MarkerLine markers line) {c : Char} {p : Position} :
    (c, p) ∈ marks markers i (drawLines stack i lines) ↔
      ∃ j, i ≤ j ∧ j < i + lines.length ∧ ∃ x ∈ stack j, x.1 = c ∧ x.2.Covers p := by
  induction lines generalizing i with
  | nil =>
    simp only [drawLines, marks, List.not_mem_nil, List.length_nil, false_iff]
    rintro ⟨j, hle, hlt, -⟩
    omega
  | cons line rest ih =>
    have hmarker := markerLine_of_mem_stack h i
    have hrest := ih (i + 1) fun l hl => hlines l (List.mem_cons_of_mem _ hl)
    have hhere : (c, p) ∈ ((stack i).map fun x => x.2.drawn x.1).flatMap (lineMarks markers i 0) ↔
        ∃ x ∈ stack i, x.1 = c ∧ x.2.Covers p := by
      simp only [List.mem_flatMap, List.mem_map, exists_exists_and_eq_and]
      refine exists_congr fun x => and_congr_right fun hx => ?_
      obtain ⟨hmem, -, rfl⟩ := (mem_stack h).1 hx
      rw [Segment.mem_lineMarks_drawn hm hmem, eq_comm]
    -- The marks are those of the stack below this line and those below the next lines.
    rw [drawLines, List.cons_append, marks_cons_content (hlines line List.mem_cons_self),
      marks_append, marks_of_markerLines _ hmarker, contentLines_of_markerLines hmarker,
      List.length_nil, Nat.add_zero, Nat.add_sub_cancel, List.mem_append, hhere, hrest,
      List.length_cons]
    constructor
    · rintro (hx | ⟨j, hle, hlt, hx⟩)
      · exact ⟨i, Nat.le_refl i, by omega, hx⟩
      · exact ⟨j, by omega, by omega, hx⟩
    · rintro ⟨j, hle, hlt, hx⟩
      rcases Nat.eq_or_lt_of_le hle with rfl | hlt'
      · exact .inl hx
      · exact .inr ⟨j, hlt', by omega, hx⟩

theorem newline_not_mem_drawLines (hm : ∀ c ∈ markers, Text.isBlank c = false)
    (h : Stacks markers segments stack) (i : Nat) {lines : List (List Char)}
    (hlines : ∀ line ∈ lines, '\n' ∉ line) : ∀ line ∈ drawLines stack i lines, '\n' ∉ line := by
  induction lines generalizing i with
  | nil => simp [drawLines]
  | cons line rest ih =>
    intro other hother
    simp only [drawLines, List.cons_append, List.mem_cons, List.mem_append, List.mem_map] at hother
    rcases hother with rfl | ⟨x, hx, rfl⟩ | hother
    · exact hlines other List.mem_cons_self
    · exact x.2.newline_not_mem_drawn (hm x.1 ((mem_stack h).1 hx).1)
    · exact ih (i + 1) (fun l hl => hlines l (List.mem_cons_of_mem _ hl)) other hother

/-- The lines of a drawn text are the drawn lines. -/
theorem linesOf_draw (hm : ∀ c ∈ markers, Text.isBlank c = false)
    (h : Stacks markers segments stack) (text : String) :
    linesOf (draw text stack) = drawLines stack 0 (linesOf text) := by
  obtain ⟨rest, hlines⟩ := linesOf_eq_cons text
  refine linesOf_textOf ?_ (newline_not_mem_drawLines hm h 0 newline_not_mem_linesOf)
  simp [hlines, drawLines]

/-- A drawing starts with the first line of its text. -/
theorem firstLine_draw (hm : ∀ c ∈ markers, Text.isBlank c = false)
    (h : Stacks markers segments stack) (text : String) :
    firstLine (draw text stack) = firstLine text := by
  obtain ⟨rest, hrest⟩ := linesOf_eq_cons text
  have hlines := linesOf_draw hm h text
  rw [hrest, drawLines, List.cons_append] at hlines
  exact firstLine_eq hlines

/-- The regions of a drawing are the hulls of what the segments cover. -/
theorem hull_draw {text : String} (hm : ∀ c ∈ markers, Text.isBlank c = false)
    (h : Stacks markers segments stack)
    (htext : ∀ line ∈ linesOf text, ¬ MarkerLine markers line)
    (hline : ∀ c ∈ markers, ∀ s ∈ segments c, s.line < (linesOf text).length) {found : Scan}
    (hscan : scan (draw text stack) markers = .ok found) :
    Hull (fun c p => c ∈ markers ∧ ∃ s ∈ segments c, s.Covers p) found.regions := by
  refine hull_congr (hull_of_scan hscan) fun c p => ?_
  rw [linesOf_draw hm h, mem_marks_drawLines hm h 0 htext]
  constructor
  · rintro ⟨j, -, -, x, hx, rfl, hp⟩
    obtain ⟨hc, hs, -⟩ := (mem_stack h).1 hx
    exact ⟨hc, x.2, hs, hp⟩
  · rintro ⟨hc, s, hs, hp⟩
    have hlt := hline c hc s hs
    exact ⟨s.line, Nat.zero_le _, by omega, (c, s), (mem_stack h).2 ⟨hc, hs, rfl⟩, rfl, hp⟩

end

/-! ## Scanning a drawing -/

/-- Of a set with a least element, any part that reaches below all of it has the same one. -/
theorem isLeast_of_reaches {α : Type} [PartialOrder α] {all part : Set α} {a : α}
    (h : IsLeast all a) (hsub : part ⊆ all) (hreach : ∀ x ∈ all, ∃ y ∈ part, y ≤ x) :
    IsLeast part a := by
  obtain ⟨y, hy, hle⟩ := hreach a h.1
  have hya : y = a := le_antisymm hle (h.2 (hsub hy))
  exact ⟨hya ▸ hy, fun x hx => h.2 (hsub hx)⟩

/-- The least position that segments cover is the least of their first positions, the greatest one
the greatest of their last positions. -/
theorem extent_of_covers {segments : List Segment} {region : Region}
    (h : IsLeast {p | ∃ s ∈ segments, s.Covers p} region.first ∧
      IsGreatest {p | ∃ s ∈ segments, s.Covers p} region.last) :
    IsLeast {p | ∃ s ∈ segments, p = s.first} region.first ∧
      IsGreatest {p | ∃ s ∈ segments, p = s.last} region.last := by
  constructor
  · refine isLeast_of_reaches h.1 ?_ ?_
    · rintro _ ⟨s, hs, rfl⟩
      exact ⟨s, hs, s.covers_first⟩
    · rintro p ⟨s, hs, hp⟩
      exact ⟨s.first, ⟨s, hs, rfl⟩, s.first_le hp⟩
  · refine isLeast_of_reaches (α := Positionᵒᵈ) h.2 ?_ ?_
    · rintro _ ⟨s, hs, rfl⟩
      exact ⟨s, hs, s.covers_last⟩
    · rintro p ⟨s, hs, hp⟩
      exact ⟨s.last, ⟨s, hs, rfl⟩, s.le_last hp⟩

/-- **Scanning undoes drawing.** A text without marker lines, drawn over with at least one segment
for each marker, gives itself back and the extent of each marker's segments. -/
theorem scan_draw {text : String} {markers : List Char} {segments : Char → List Segment}
    {stack : Nat → List Stroke} (hm : ∀ c ∈ markers, Text.isBlank c = false)
    (htext : ∀ line ∈ linesOf text, ¬ MarkerLine markers line)
    (hne : ∀ c ∈ markers, segments c ≠ [])
    (hline : ∀ c ∈ markers, ∀ s ∈ segments c, s.line < (linesOf text).length)
    (hstack : Stacks markers segments stack) :
    ∃ found, scan (draw text stack) markers = .ok found ∧ found.source = text ∧
      ∀ c ∈ markers, ∃ region, found.region c = some region ∧
        IsLeast {p | ∃ s ∈ segments c, p = s.first} region.first ∧
        IsGreatest {p | ∃ s ∈ segments c, p = s.last} region.last := by
  have hfirst : ¬ MarkerLine markers (firstLine (draw text stack)) := by
    rw [firstLine_draw hm hstack]
    exact htext _ (firstLine_mem text)
  obtain ⟨found, hscan, hsource⟩ : ∃ found, scan (draw text stack) markers = .ok found ∧
      found.source = textOf (contentLines markers (linesOf (draw text stack))) :=
    ⟨_, scan_eq_ok hm hfirst, rfl⟩
  have hhull := hull_draw hm hstack htext hline hscan
  refine ⟨found, hscan, ?_, fun c hc => ?_⟩
  · rw [hsource, linesOf_draw hm hstack, contentLines_drawLines hstack 0 htext,
      textOf_linesOf]
  · cases hregion : found.region c with
    | none =>
      obtain ⟨s, hs⟩ := List.exists_mem_of_ne_nil _ (hne c hc)
      exact absurd ⟨hc, s, hs, s.covers_first⟩ ((hhull.lookup_none c).1 hregion s.first)
    | some region =>
      have hextent := hhull.lookup_some c region hregion
      simp only [hc, true_and] at hextent
      exact ⟨region, rfl, extent_of_covers hextent⟩

/-- Segments of two markers, one of them on both lines of a text. -/
def twoLineSegments : Char → List Segment
  | '~' => [⟨1, 0, 1, by decide⟩, ⟨0, 1, 2, by decide⟩]
  | '^' => [⟨0, 0, 1, by decide⟩]
  | _ => []

/-- The same segments stacked, those of the first line in another order. -/
def twoLineStack : Nat → List Stroke
  | 0 => [('^', ⟨0, 0, 1, by decide⟩), ('~', ⟨0, 1, 2, by decide⟩)]
  | 1 => [('~', ⟨1, 0, 1, by decide⟩)]
  | _ => []

example : draw "foo\nbar" twoLineStack = "foo\n^\n ~~\nbar\n~" := rfl

/-- The drawing scanned. -/
theorem scan_draw_two_lines :
    (∀ line ∈ linesOf "foo\nbar", ¬ MarkerLine ['~', '^'] line) ∧
      Stacks ['~', '^'] twoLineSegments twoLineStack ∧
      ∃ found, scan (draw "foo\nbar" twoLineStack) ['~', '^'] = .ok found ∧
        found.source = "foo\nbar" ∧ ∀ c ∈ ['~', '^'], ∃ region, found.region c = some region ∧
          IsLeast {p | ∃ s ∈ twoLineSegments c, p = s.first} region.first ∧
          IsGreatest {p | ∃ s ∈ twoLineSegments c, p = s.last} region.last := by
  have htext : ∀ line ∈ linesOf "foo\nbar", ¬ MarkerLine ['~', '^'] line := by decide
  have hstack : Stacks ['~', '^'] twoLineSegments twoLineStack := by
    intro i
    match i with
    | 0 => decide
    | 1 => decide
    | _ + 2 => simp [strokes, twoLineSegments, twoLineStack]
  refine ⟨htext, hstack, scan_draw ?_ htext ?_ ?_ hstack⟩ <;>
    rw [List.forall_mem_cons, List.forall_mem_singleton] <;> decide

end MarkLine
