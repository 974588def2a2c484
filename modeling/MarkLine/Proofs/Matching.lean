import MarkLine.Proofs.Comparison
import MarkLine.Proofs.DataEquality
import MarkLine.Proofs.SpanOrder
import MarkLine.Proofs.SpanText
import Mathlib.Data.List.Perm.Basic
import Mathlib.Data.List.FinRange
import Mathlib.Logic.Equiv.Defs

/-!
# Verification as a matching

A report satisfies the errors of a case if they can be paired off: each error with one diagnostic
that meets it, no diagnostic left over. Verification does not search for such a pairing. It sorts
both sides by span and tries the one pairing by place.

A report that passes is matched (`matching_of_sorted`). The converse needs the errors to have spans
of their own: then a diagnostic that meets an error has the span of that error and of no other, so
whatever pairing there is sorts into the one by place (`sorted_of_matching`).
-/

namespace MarkLine

/-- A diagnostic meets an expectation: same span, same message id and, where the expectation carries
data, equal data; the two zeros are one number. -/
structure Meets (e : Expectation) (r : Reported) : Prop where
  span : e.span = r.span
  messageId : e.messageId = r.messageId
  data : ∀ expected, e.data = some expected →
    r.data.map Json.fieldsUnsigned = some (Json.fieldsUnsigned expected)

/-- A pairing of all expectations with all diagnostics, each with one that meets it. -/
def Matching (errors : List Expectation) (reported : List Reported) : Prop :=
  ∃ partner : Fin errors.length ≃ Fin reported.length,
    ∀ i, Meets (errors.get i) (reported.get (partner i))

/-! ## Pairs without a mismatch -/

theorem comparePair_eq_nil_iff {index : Nat} {e : Expectation} {r : Reported} :
    comparePair index e r = [] ↔ Meets e r := by
  have hmeets : Meets e r ↔ e.span = r.span ∧ e.messageId = r.messageId ∧
      ∀ expected, e.data = some expected → sameData expected r.data = true := by
    simp only [sameData_iff]
    exact ⟨fun h => ⟨h.span, h.messageId, h.data⟩, fun h => ⟨h.1, h.2.1, h.2.2⟩⟩
  rw [hmeets]
  unfold comparePair
  cases e.data <;> simp [Span.display_inj]

theorem comparePairs_eq_nil_iff {es : List Expectation} {rs : List Reported}
    (hlen : es.length = rs.length) (k : Nat) :
    comparePairs k es rs = [] ↔ List.Forall₂ Meets es rs := by
  induction es generalizing k rs with
  | nil =>
    obtain rfl : rs = [] := List.length_eq_zero_iff.1 hlen.symm
    simp [comparePairs]
  | cons e es ih =>
    cases rs with
    | nil => simp at hlen
    | cons r rs =>
      rw [comparePairs, List.append_eq_nil_iff, comparePair_eq_nil_iff,
        ih (by simpa using hlen), List.forall₂_cons]

/-- The errors are accepted exactly if the two sorted lists meet place by place. -/
theorem compareErrors_eq_nil_iff {errors : List Expectation} {reported : List Reported} :
    compareErrors errors reported = [] ↔
      List.Forall₂ Meets (sortExpected errors) (sortReported reported) := by
  have hlen : (sortExpected errors).length = (sortReported reported).length ↔
      errors.length = reported.length := by
    simp [sortExpected, sortReported]
  unfold compareErrors
  rw [List.append_eq_nil_iff]
  constructor
  · rintro ⟨hcount, hpairs⟩
    have hcount' : errors.length = reported.length := by simpa using hcount
    exact (comparePairs_eq_nil_iff (hlen.2 hcount') 0).1 hpairs
  · intro h
    have hlen' := h.length_eq
    exact ⟨if_pos (hlen.1 hlen'), (comparePairs_eq_nil_iff hlen' 0).2 h⟩

/-! ## Pairings and orders -/

/-- A pairing is an order of the diagnostics in which they meet the expectations place by place. -/
theorem matching_iff {errors : List Expectation} {reported : List Reported} :
    Matching errors reported ↔
      ∃ other, List.Forall₂ Meets errors other ∧ other.Perm reported := by
  constructor
  · rintro ⟨partner, hmeets⟩
    have hperm : ((List.finRange errors.length).map partner).Perm
        (List.finRange reported.length) := by
      refine (List.perm_ext_iff_of_nodup ?_ (List.nodup_finRange _)).2 fun j => ?_
      · exact (List.nodup_finRange _).map partner.injective
      · simp only [List.mem_map, List.mem_finRange, true_and, iff_true]
        exact partner.surjective j
    refine ⟨(List.finRange errors.length).map fun i => reported.get (partner i), ?_, ?_⟩
    · rw [List.forall₂_iff_get]
      refine ⟨by simp, fun i h₁ h₂ => ?_⟩
      simpa using hmeets ⟨i, h₁⟩
    · have := hperm.map reported.get
      rwa [List.map_map, List.map_get_finRange] at this
  · rintro ⟨other, hmeets, hperm⟩
    classical
    obtain ⟨hlen, hget⟩ := List.forall₂_iff_get.1 hmeets
    refine ⟨(finCongr hlen).trans ⟨hperm.idxBij, hperm.symm.idxBij,
      hperm.idxBij_rightInverse_idxBij_symm, hperm.idxBij_leftInverse_idxBij_symm⟩, fun i => ?_⟩
    have hi := hget i i.2 (hlen ▸ i.2)
    have hsame := hperm.getElem_idxBij_eq_getElem (finCongr hlen i)
    simpa [hsame] using hi

theorem matching_of_sorted {errors : List Expectation} {reported : List Reported}
    (h : List.Forall₂ Meets (sortExpected errors) (sortReported reported)) :
    Matching errors reported := by
  have herrors : errors.Perm (sortExpected errors) := (List.mergeSort_perm errors _).symm
  obtain ⟨other, hmeets, hperm⟩ := List.perm_comp_forall₂ herrors h
  exact matching_iff.2 ⟨other, hmeets, hperm.trans (List.mergeSort_perm reported _)⟩

/-- Diagnostics that meet expectations have their spans. -/
theorem map_span_of_forall₂ {es : List Expectation} {rs : List Reported}
    (h : List.Forall₂ Meets es rs) : rs.map Reported.span = es.map Expectation.span := by
  induction h with
  | nil => rfl
  | cons hmeets _ ih => simp [hmeets.span, ih]

theorem sorted_of_matching {errors : List Expectation} {reported : List Reported}
    (hspans : (errors.map Expectation.span).Nodup) (h : Matching errors reported) :
    List.Forall₂ Meets (sortExpected errors) (sortReported reported) := by
  obtain ⟨given, hgiven, hreported⟩ := matching_iff.1 h
  have herrors : (sortExpected errors).Perm errors := List.mergeSort_perm errors _
  -- The pairing, read in the order of the sorted errors.
  obtain ⟨other, hmeets, hother⟩ := List.perm_comp_forall₂ herrors hgiven
  have hmap := map_span_of_forall₂ hmeets
  have hsorted : other.Pairwise fun a b => a.span.before b.span = true := by
    have hspan : ((sortExpected errors).map Expectation.span).Pairwise
        fun s t => s.before t = true :=
      List.pairwise_map.2 (pairwise_sortBySpan Expectation.span errors)
    exact List.pairwise_map.1 (hmap ▸ hspan)
  have hnodup : (other.map Reported.span).Nodup := by
    rw [hmap]
    exact (herrors.map Expectation.span).nodup_iff.2 hspans
  rwa [sortReported_eq, ← eq_sortBySpan Reported.span hnodup hsorted (hother.trans hreported)]

/-! ## Verification -/

theorem effectiveFix_eq (code : String) (fixed : Option String) :
    effectiveFix code fixed = if fixed = some code then none else fixed := by
  cases fixed with
  | none => simp [effectiveFix]
  | some text => by_cases h : text = code <;> simp [effectiveFix, Option.filter, h]

/-- **Verification decides the matching problem.** What it accepts is matched and fixed as the case
expects; and where the errors have spans of their own, it accepts whatever is. -/
theorem verify_decides_matching (c : FailingCase) (reported : List Reported)
    (fixed : Option String) :
    ((verify c reported fixed).isOk = true →
      Matching c.errors reported ∧
        c.output.bind Fixed.finalText = if fixed = some c.code then none else fixed) ∧
    ((c.errors.map Expectation.span).Nodup → Matching c.errors reported →
      (c.output.bind Fixed.finalText = if fixed = some c.code then none else fixed) →
        (verify c reported fixed).isOk = true) := by
  rw [verify_isOk_iff, compareErrors_eq_nil_iff, effectiveFix_eq]
  constructor
  · rintro ⟨herrors, hfix⟩
    exact ⟨matching_of_sorted herrors, hfix⟩
  · intro hspans hmatching hfix
    exact ⟨sorted_of_matching hspans hmatching, hfix⟩

/-- A case with two errors, one with data that holds a zero, and a fix. -/
def zeroOnFirstLine : FailingCase :=
  { name := "zero on the first line", code := "a\nb", options := []
    errors := [⟨"first", some [("n", .number (.float (.zero false)))], ⟨1, 1, 1, 1⟩, none⟩,
      ⟨"second", none, ⟨2, 1, 2, 1⟩, none⟩]
    output := some (.single "c"), filename := none, only := false }

/-- A report on it from the last line to the first, with the other zero. -/
def lastLineFirst : List Reported :=
  [{ messageId := "second", span := ⟨2, 1, 2, 1⟩, data := some [] },
   { messageId := "first", span := ⟨1, 1, 1, 1⟩
     data := some [("n", .number (.float (.zero true)))] }]

/-- The report is accepted, and what is accepted is matched. -/
theorem lastLineFirst_matches :
    (zeroOnFirstLine.errors.map Expectation.span).Nodup ∧
      (verify zeroOnFirstLine lastLineFirst (some "c")).isOk = true ∧
      Matching zeroOnFirstLine.errors lastLineFirst := by
  have hspans : (zeroOnFirstLine.errors.map Expectation.span).Nodup := by decide
  have hmatching : Matching zeroOnFirstLine.errors lastLineFirst := by
    refine matching_iff.2 ⟨lastLineFirst.reverse, .cons ⟨rfl, rfl, ?_⟩ (.cons ⟨rfl, rfl, ?_⟩ .nil),
      List.reverse_perm _⟩
    · rintro expected ⟨⟩
      rfl
    · rintro expected ⟨⟩
  have hok : (verify zeroOnFirstLine lastLineFirst (some "c")).isOk = true :=
    (verify_decides_matching _ _ _).2 hspans hmatching rfl
  exact ⟨hspans, hok, ((verify_decides_matching _ _ _).1 hok).1⟩

end MarkLine
