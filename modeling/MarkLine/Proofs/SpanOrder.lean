import MarkLine.Verification
import Mathlib.Data.List.Nodup

/-!
# The order of spans

Spans are ordered by their four numbers, one after the other, and the order is linear. Expected
errors and reported diagnostics are sorted by it and by nothing else, so what sorting does is stated
here once for any items with a span.
-/

namespace MarkLine

namespace Span

theorem before_iff (s t : Span) :
    s.before t = true ↔ s.line < t.line ∨ (s.line = t.line ∧ (s.column < t.column ∨
      (s.column = t.column ∧ (s.endLine < t.endLine ∨
        (s.endLine = t.endLine ∧ s.endColumn ≤ t.endColumn))))) := by
  simp [before]

theorem before_refl (s : Span) : s.before s = true := by
  simp [before]

theorem before_trans {s t u : Span} (hst : s.before t = true) (htu : t.before u = true) :
    s.before u = true := by
  rw [before_iff] at *
  omega

theorem before_total (s t : Span) : (s.before t || t.before s) = true := by
  rw [Bool.or_eq_true, before_iff, before_iff]
  omega

theorem before_antisymm {s t : Span} (hst : s.before t = true) (hts : t.before s = true) :
    s = t := by
  rw [before_iff] at *
  cases s; cases t
  simp only [Span.mk.injEq] at *
  omega

end Span

/-! ## Sorting by span -/

section
variable {α : Type} (span : α → Span)

/-- Items in the order of their spans, equal spans in the order given. -/
def sortBySpan (items : List α) : List α :=
  items.mergeSort fun a b => (span a).before (span b)

theorem sortBySpan_perm (items : List α) : (sortBySpan span items).Perm items :=
  List.mergeSort_perm items _

theorem pairwise_sortBySpan (items : List α) :
    (sortBySpan span items).Pairwise fun a b => (span a).before (span b) = true := by
  apply List.pairwise_mergeSort
  · intro a b c hab hbc
    exact Span.before_trans hab hbc
  · intro a b
    exact Span.before_total (span a) (span b)

theorem sortBySpan_of_pairwise {items : List α}
    (h : items.Pairwise fun a b => (span a).before (span b) = true) :
    sortBySpan span items = items :=
  List.mergeSort_of_pairwise h

/-- Which item stands where depends on the order given, which span stands where does not. -/
theorem map_sortBySpan_eq_of_perm {items others : List α} (h : items.Perm others) :
    (sortBySpan span items).map span = (sortBySpan span others).map span := by
  have hsorted : ∀ l : List α, ((sortBySpan span l).map span).Pairwise
      fun s t => s.before t = true :=
    fun l => List.pairwise_map.2 (pairwise_sortBySpan span l)
  have hperm : (sortBySpan span items).Perm (sortBySpan span others) :=
    (sortBySpan_perm span items).trans (h.trans (sortBySpan_perm span others).symm)
  exact List.Perm.eq_of_pairwise (fun _ _ _ _ => Span.before_antisymm) (hsorted items)
    (hsorted others) (hperm.map span)

/-- Where no two items share a span, there is one order of the spans and one order of the items. -/
theorem eq_sortBySpan {items others : List α} (hspans : (items.map span).Nodup)
    (hsorted : items.Pairwise fun a b => (span a).before (span b) = true)
    (hperm : items.Perm others) : items = sortBySpan span others := by
  have hsort : items.Perm (sortBySpan span others) :=
    hperm.trans (sortBySpan_perm span others).symm
  refine List.Perm.eq_of_pairwise (fun a b ha hb hab hba => ?_) hsorted
    (pairwise_sortBySpan span others) hsort
  exact List.inj_on_of_nodup_map hspans ha (hsort.mem_iff.2 hb) (Span.before_antisymm hab hba)

/-- Sorting commutes with a map that keeps spans. -/
theorem sortBySpan_map {β : Type} (span' : β → Span) (f : α → β) (hf : ∀ a, span' (f a) = span a)
    (items : List α) : sortBySpan span' (items.map f) = (sortBySpan span items).map f :=
  (List.map_mergeSort fun a _ b _ => by rw [hf, hf]).symm

end

theorem sortReported_eq (reported : List Reported) :
    sortReported reported = sortBySpan Reported.span reported := rfl

end MarkLine
