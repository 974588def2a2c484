import MarkLine.Proofs.Comparison
import MarkLine.Proofs.SpanOrder
import MarkLine.Proofs.SpanText
import Mathlib.Data.Prod.Lex

/-!
# Mismatches of spans

Verification sorts both sides by the numbers of their spans and then compares the texts of the spans
at each place. Both are the same comparison: the sort follows the lexicographic order of four
numbers (`before_iff_key_le`), and a text stands for its four numbers and no others. So the
mismatches of spans can be read off the numbers alone, whatever else the errors and the diagnostics
carry (`verify_span_mismatch_iff`).
-/

namespace MarkLine

/-! ## Keys -/

namespace Span

/-- The four numbers of a span, in lexicographic order. -/
def key (s : Span) : Nat ×ₗ Nat ×ₗ Nat ×ₗ Nat :=
  toLex (s.line, toLex (s.column, toLex (s.endLine, s.endColumn)))

/-- Keys agree exactly if all four numbers do. -/
theorem key_eq_iff {s t : Span} :
    s.key = t.key ↔ s.line = t.line ∧ s.column = t.column ∧ s.endLine = t.endLine ∧
      s.endColumn = t.endColumn := by
  simp [key]

theorem key_inj {s t : Span} : s.key = t.key ↔ s = t := by
  rw [key_eq_iff]
  cases s; cases t
  simp

theorem before_iff_key_le {s t : Span} : s.before t = true ↔ s.key ≤ t.key := by
  simp [before_iff, key, Prod.Lex.toLex_le_toLex]

def inKeyOrder (spans : List Span) : List Span :=
  spans.mergeSort fun s t => s.key ≤ t.key

end Span

/-- The spans of sorted items are the sorted spans of the items. -/
theorem map_sortBySpan {α : Type} (span : α → Span) (items : List α) :
    (sortBySpan span items).map span = Span.inKeyOrder (items.map span) := by
  have hbefore : Span.before = fun s t => decide (s.key ≤ t.key) := by
    funext s t
    rw [Bool.eq_iff_iff, Span.before_iff_key_le, decide_eq_true_iff]
  rw [← sortBySpan_map span id span (fun _ => rfl), sortBySpan, Span.inKeyOrder, ← hbefore]
  rfl

/-! ## Span mismatches -/

/-- A pair has a mismatch of spans exactly if its spans differ, and it names both. -/
theorem span_mem_comparePair {index i : Nat} {e : Expectation} {r : Reported} {x y : String} :
    Mismatch.span i x y ∈ comparePair index e r ↔
      i = index ∧ e.span.key ≠ r.span.key ∧ x = e.span.display ∧ y = r.span.display := by
  unfold comparePair
  cases e.data <;> simp [Span.key_inj, Span.display_inj, and_left_comm]

/-- Mismatches of spans come from the pairs only. -/
theorem span_mem_verify {c : FailingCase} {reported : List Reported} {fixed : Option String}
    {i : Nat} {x y : String} :
    Mismatch.span i x y ∈ (verify c reported fixed).mismatches ↔
      Mismatch.span i x y ∈ comparePairs 0 (sortExpected c.errors) (sortReported reported) := by
  simp [verify, compareErrors, compareOutput]

/-- **Comparing spans as texts is comparing them as numbers.** An expected error and a diagnostic
show one span exactly if all four numbers agree; and verification finds a mismatch of spans at a
place exactly if the keys at that place differ, both sides in the order of their keys. -/
theorem verify_span_mismatch_iff :
    (∀ (e : Expectation) (r : Reported), e.span.display = r.span.display ↔
      e.span.line = r.span.line ∧ e.span.column = r.span.column ∧
        e.span.endLine = r.span.endLine ∧ e.span.endColumn = r.span.endColumn) ∧
    ∀ (c : FailingCase) (reported : List Reported) (fixed : Option String) (i : Nat)
      (x y : String), Mismatch.span i x y ∈ (verify c reported fixed).mismatches ↔
        ∃ s t, (Span.inKeyOrder (c.errors.map Expectation.span))[i]? = some s ∧
          (Span.inKeyOrder (reported.map Reported.span))[i]? = some t ∧
            s.key ≠ t.key ∧ x = s.display ∧ y = t.display := by
  constructor
  · intro e r
    rw [Span.display_inj, ← Span.key_inj, Span.key_eq_iff]
  · intro c reported fixed i x y
    rw [span_mem_verify, mem_comparePairs, ← map_sortBySpan, ← map_sortBySpan, List.getElem?_map,
      List.getElem?_map]
    simp only [Option.map_eq_some_iff, span_mem_comparePair, Nat.zero_add]
    constructor
    · rintro ⟨_, e, r, he, hr, rfl, hkey, rfl, rfl⟩
      exact ⟨e.span, r.span, ⟨e, he, rfl⟩, ⟨r, hr, rfl⟩, hkey, rfl, rfl⟩
    · rintro ⟨_, _, ⟨e, he, rfl⟩, ⟨r, hr, rfl⟩, hkey, rfl, rfl⟩
      exact ⟨i, e, r, he, hr, rfl, hkey, rfl, rfl⟩

end MarkLine
