import MarkLine.Proofs.Marks
import Mathlib.Order.Bounds.Basic

/-!
# Regions from marks

A scan adds its marks to a table of regions one at a time. Whatever the order, the region of a
marker ends up as the hull of its marks: its first position is the least of them and its last one
the greatest (`Hull`, carried through `Regions.mark` by `hull_mark` and through a whole list of
marks by `hull_markAll`).
-/

namespace MarkLine

/-! ## Document order -/

namespace Position

instance : LE Position := ⟨fun p q => p.before q = true⟩

instance (p q : Position) : Decidable (p ≤ q) :=
  inferInstanceAs (Decidable (p.before q = true))

/-- Positions are linearly ordered; the earlier and the later of two are their minimum and maximum.
-/
instance : LinearOrder Position where
  le_refl := before_refl
  le_trans _ _ _ := before_trans
  le_antisymm _ _ := before_antisymm
  le_total := before_total
  toDecidableLE := inferInstance
  min := earlier
  max := later
  min_def _ _ := rfl
  max_def _ _ := rfl

theorem le_iff {p q : Position} :
    p ≤ q ↔ p.line < q.line ∨ (p.line = q.line ∧ p.character ≤ q.character) :=
  before_iff p q

theorem lt_iff {p q : Position} :
    p < q ↔ p.line < q.line ∨ (p.line = q.line ∧ p.character < q.character) := by
  rw [lt_iff_le_not_ge, le_iff, le_iff]
  omega

end Position

/-! ## The table of regions -/

theorem lookup_entry_cons (d : Char) (region : Region) (rest : Regions) (c : Char) :
    List.lookup c ((d, region) :: rest) = if c = d then some region else rest.lookup c := by
  by_cases h : c = d
  · simp [h]
  · have hb : (c == d) = false := by simpa using h
    simp [List.lookup_cons, hb, h]

/-- One mark touches the region of its own marker and no other. -/
theorem lookup_mark (regions : Regions) (marker : Char) (p : Position) (c : Char) :
    (regions.mark marker p).lookup c =
      if c = marker then
        some (match regions.lookup marker with
          | none => Region.point p
          | some region => region.widen p)
      else regions.lookup c := by
  induction regions with
  | nil => simp [Regions.mark, lookup_entry_cons]
  | cons entry rest ih =>
    obtain ⟨d, region⟩ := entry
    by_cases hd : d = marker
    · subst hd
      by_cases hc : c = d <;> simp [Regions.mark, lookup_entry_cons, hc]
    · simp only [Regions.mark, hd, if_false, lookup_entry_cons, ih]
      by_cases hc : c = marker
      · subst hc
        simp [Ne.symm hd]
      · simp [hc]

/-- Adds marks one after the other. -/
def Regions.markAll (regions : Regions) (found : List Mark) : Regions :=
  found.foldl (fun table mark => table.mark mark.1 mark.2) regions

theorem markAll_cons (regions : Regions) (mark : Mark) (found : List Mark) :
    regions.markAll (mark :: found) = (regions.mark mark.1 mark.2).markAll found := rfl

theorem markAll_append (regions : Regions) (found more : List Mark) :
    regions.markAll (found ++ more) = (regions.markAll found).markAll more :=
  List.foldl_append

/-- Going through a marker line adds its marks. -/
theorem markLine_eq_markAll (markers : List Char) (target column : Nat) (line : List Char)
    (regions : Regions) :
    regions.markLine markers target column line =
      regions.markAll (lineMarks markers target column line) := by
  induction line generalizing column regions with
  | nil => rfl
  | cons c rest ih =>
    by_cases hc : c ∈ markers
    · simp [Regions.markLine, lineMarks, hc, ih, markAll_cons]
    · simp [Regions.markLine, lineMarks, hc, ih]

/-! ## Hulls -/

/-- A table of regions is the hull of what is marked: it has a region for a character exactly if
that is marked somewhere, and the region runs from its least to its greatest marked position. -/
structure Hull (marked : Char → Position → Prop) (regions : Regions) : Prop where
  lookup_none : ∀ c, regions.lookup c = none ↔ ∀ p, ¬ marked c p
  lookup_some : ∀ c region, regions.lookup c = some region →
    IsLeast {p | marked c p} region.first ∧ IsGreatest {p | marked c p} region.last

theorem hull_nil : Hull (fun _ _ => False) [] := ⟨by simp, by simp⟩

theorem hull_congr {marked marked' : Char → Position → Prop} {regions : Regions}
    (h : Hull marked regions) (heq : ∀ c p, marked c p ↔ marked' c p) : Hull marked' regions := by
  have : marked = marked' := by
    funext c p
    exact propext (heq c p)
  exact this ▸ h

/-- **Step.** One more mark keeps the table the hull of what is marked. -/
theorem hull_mark {marked : Char → Position → Prop} {regions : Regions} (h : Hull marked regions)
    (marker : Char) (q : Position) :
    Hull (fun c p => marked c p ∨ (c, p) = (marker, q)) (regions.mark marker q) := by
  constructor
  · intro c
    by_cases hc : c = marker
    · subst hc
      rw [lookup_mark, if_pos rfl]
      simp only [reduceCtorEq, false_iff, not_forall, not_not]
      exact ⟨q, Or.inr rfl⟩
    · rw [lookup_mark, if_neg hc, h.lookup_none]
      simp [hc]
  · intro c region hregion
    rw [lookup_mark] at hregion
    by_cases hc : c = marker
    · subst hc
      rw [if_pos rfl, Option.some.injEq] at hregion
      subst hregion
      cases hold : regions.lookup c with
      | none =>
        have honly : {p | marked c p ∨ (c, p) = (c, q)} = {q} := by
          ext p
          simp [(h.lookup_none c).1 hold p]
        rw [honly]
        exact ⟨isLeast_singleton, isGreatest_singleton⟩
      | some old =>
        have hmore : {p | marked c p ∨ (c, p) = (c, q)} = insert q {p | marked c p} := by
          ext p
          simp [or_comm]
        obtain ⟨hleast, hgreatest⟩ := h.lookup_some c old hold
        rw [hmore]
        refine ⟨?_, ?_⟩
        · have := hleast.insert q
          rwa [min_comm] at this
        · have := hgreatest.insert q
          rwa [max_comm] at this
    · rw [if_neg hc] at hregion
      have hsame : {p | marked c p ∨ (c, p) = (marker, q)} = {p | marked c p} := by
        ext p
        simp [hc]
      rw [hsame]
      exact h.lookup_some c region hregion

/-- **Run.** A table stays the hull of what is marked through any list of marks. -/
theorem hull_markAll {marked : Char → Position → Prop} {regions : Regions}
    (h : Hull marked regions) (found : List Mark) :
    Hull (fun c p => marked c p ∨ (c, p) ∈ found) (regions.markAll found) := by
  induction found generalizing marked regions with
  | nil => exact hull_congr h fun c p => by simp
  | cons mark rest ih =>
    have hstep := ih (hull_mark h mark.1 mark.2)
    exact hull_congr hstep fun c p => by simp [or_assoc]

/-- The regions of a list of marks are its hull. -/
theorem hull_marks (found : List Mark) :
    Hull (fun c p => (c, p) ∈ found) (Regions.markAll [] found) :=
  hull_congr (hull_markAll hull_nil found) fun c p => by simp

end MarkLine
