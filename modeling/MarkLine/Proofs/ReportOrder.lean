import MarkLine.Case.Marked
import MarkLine.Proofs.Comparison
import MarkLine.Proofs.SpanOrder

/-!
# The order of a report

Both sides are sorted by span before they are compared, so a rule may report in any order as long as
no two of its diagnostics share a span. Where some do, sorting keeps them as they came, and the
order shows if the expectation at their place can tell them apart.

`verify_perm_iff` gives the exact condition: the outcome is the same for every order of a report if
and only if all diagnostics that share a span are interchangeable for each expectation they can
meet. `verify_order_shows` is a report on two markers drawn under one character, which passes in one
order and fails in the other.
-/

namespace MarkLine

/-- Two diagnostics that an expectation cannot tell apart: they have one message id, and where the
expectation carries data they have the same data or both match. -/
def Interchangeable (e : Expectation) (a b : Reported) : Prop :=
  a.messageId = b.messageId ∧ ∀ data, e.data = some data →
    a.data = b.data ∨ (sameData data a.data = true ∧ sameData data b.data = true)

/-- Two diagnostics give one outcome of the data check exactly if their data are equal or both
match. -/
theorem dataMismatch_eq_iff {index : Nat} {expected : Json.Object} {a b : Option Json.Object} :
    (if sameData expected a then [] else [Mismatch.data index expected a]) =
      (if sameData expected b then [] else [.data index expected b]) ↔
      a = b ∨ (sameData expected a = true ∧ sameData expected b = true) := by
  by_cases ha : sameData expected a <;> by_cases hb : sameData expected b
  · simp [ha, hb]
  · have hne : a ≠ b := fun h => hb (h ▸ ha)
    simp [ha, hb, hne]
  · have hne : a ≠ b := fun h => ha (h ▸ hb)
    simp [ha, hb, hne]
  · simp [ha, hb]

/-- The mismatches of a pair name a wrong message id and no other. -/
theorem messageId_mem_comparePair (index : Nat) {e : Expectation} {r : Reported} {id : String} :
    Mismatch.messageId index e.messageId id ∈ comparePair index e r ↔
      e.messageId ≠ r.messageId ∧ id = r.messageId := by
  unfold comparePair
  split <;> split <;> split <;> simp_all

/-- Diagnostics with the same mismatches have one message id. -/
theorem messageId_eq_of_comparePair_eq {index : Nat} {e : Expectation} {a b : Reported}
    (h : comparePair index e a = comparePair index e b) : a.messageId = b.messageId := by
  by_cases ha : e.messageId = a.messageId
  · by_cases hb : e.messageId = b.messageId
    · exact ha.symm.trans hb
    · have hmem := (messageId_mem_comparePair index).2 ⟨hb, rfl⟩
      rw [← h, messageId_mem_comparePair] at hmem
      exact hmem.2.symm
  · have hmem := (messageId_mem_comparePair index).2 ⟨ha, rfl⟩
    rw [h, messageId_mem_comparePair] at hmem
    exact hmem.2

/-- Diagnostics at one place have the same mismatches exactly if they are interchangeable. -/
theorem comparePair_eq_iff {index : Nat} {e : Expectation} {a b : Reported}
    (hspan : a.span = b.span) :
    comparePair index e a = comparePair index e b ↔ Interchangeable e a b := by
  have hrest (hid : a.messageId = b.messageId) :
      comparePair index e a = comparePair index e b ↔ ∀ data, e.data = some data →
        a.data = b.data ∨ (sameData data a.data = true ∧ sameData data b.data = true) := by
    unfold comparePair
    rw [hspan, hid, List.append_cancel_left_eq]
    cases hdata : e.data with
    | none => simp
    | some data => simp [dataMismatch_eq_iff]
  constructor
  · intro h
    have hid := messageId_eq_of_comparePair_eq h
    exact ⟨hid, (hrest hid).1 h⟩
  · rintro ⟨hid, hdata⟩
    exact (hrest hid).2 hdata

/-! ## Orders of one report -/

/-- Two orders of a report differ at most in the mismatches of the pairs. -/
theorem verify_eq_iff_of_perm (c : FailingCase) {reported other : List Reported}
    (fixed : Option String) (h : other.Perm reported) :
    verify c other fixed = verify c reported fixed ↔
      comparePairs 0 (sortExpected c.errors) (sortReported other) =
        comparePairs 0 (sortExpected c.errors) (sortReported reported) := by
  simp [verify, compareErrors, h.length_eq]

/-- What stands at one place in two orders of a report has one span. -/
theorem span_eq_of_perm {reported other : List Reported} (h : other.Perm reported) {i : Nat}
    {a b : Reported} (ha : (sortReported reported)[i]? = some a)
    (hb : (sortReported other)[i]? = some b) : b.span = a.span := by
  have hspans := map_sortBySpan_eq_of_perm Reported.span h
  rw [← sortReported_eq, ← sortReported_eq] at hspans
  have hi := congrArg (fun spans => spans[i]?) hspans
  simpa [ha, hb] using hi

/-- A list with the spans of a sorted report is sorted. -/
theorem sortReported_eq_of_map_span_eq {reported other : List Reported}
    (h : other.map Reported.span = (sortReported reported).map Reported.span) :
    sortReported other = other := by
  have hpair : (other.map Reported.span).Pairwise fun s t => s.before t = true := by
    rw [h]
    exact List.pairwise_map.2 (pairwise_sortBySpan Reported.span reported)
  exact sortBySpan_of_pairwise Reported.span (List.pairwise_map.1 hpair)

/-- Exchanging two entries on which a function agrees does not change what it gives on the list. -/
theorem map_exchange {α β : Type} (f : α → β) {xs : List α} {i j : Nat} (hi : i < xs.length)
    (hj : j < xs.length) (h : f xs[j] = f xs[i]) :
    ((xs.set i xs[j]).set j xs[i]).map f = xs.map f := by
  have hset {k : Nat} (hk : k < xs.length) : (xs.map f).set k (f xs[k]) = xs.map f := by
    rw [← List.map_set, List.set_getElem_self]
  rw [List.map_set, List.map_set, h, hset hi, ← h, hset hj]

/-- The entry that an exchange brings to a place. -/
theorem getElem?_exchange {α : Type} {xs : List α} {i j : Nat} (hi : i < xs.length)
    (hj : j < xs.length) : ((xs.set i xs[j]).set j xs[i])[i]? = some xs[j] := by
  by_cases hji : j = i
  · subst hji
    simp [hj]
  · rw [List.getElem?_set_ne hji, List.getElem?_set_self hi]

/-- Any diagnostic can be brought to any place that one of its span has: exchanging the two in the
sorted report leaves it sorted. -/
theorem exists_perm_getElem?_eq {reported : List Reported} {i : Nat} {a b : Reported}
    (ha : (sortReported reported)[i]? = some a) (hb : b ∈ reported) (hspan : b.span = a.span) :
    ∃ other, other.Perm reported ∧ (sortReported other)[i]? = some b := by
  have hperm : (sortReported reported).Perm reported := sortBySpan_perm Reported.span reported
  obtain ⟨j, hj, rfl⟩ := List.mem_iff_getElem.1 (hperm.mem_iff.2 hb)
  obtain ⟨hi, rfl⟩ := List.getElem?_eq_some_iff.1 ha
  have hspans := map_exchange Reported.span hi hj hspan
  have hsorted := sortReported_eq_of_map_span_eq hspans
  refine ⟨_, (List.set_set_perm hi hj).trans hperm, ?_⟩
  rw [hsorted]
  exact getElem?_exchange hi hj

/-- **When the order of a report does not matter.** Verification gives the same outcome for every
order of a report exactly if diagnostics that share a span are interchangeable for the expectation
at each place they can take. -/
theorem verify_perm_iff (c : FailingCase) (reported : List Reported) (fixed : Option String) :
    (∀ other, other.Perm reported → verify c other fixed = verify c reported fixed) ↔
      ∀ (i : Nat) e a b, (sortExpected c.errors)[i]? = some e →
        (sortReported reported)[i]? = some a → b ∈ reported → b.span = a.span →
          Interchangeable e a b := by
  constructor
  · intro h i e a b he ha hb hspan
    obtain ⟨other, hperm, hother⟩ := exists_perm_getElem?_eq ha hb hspan
    have hpairs := (verify_eq_iff_of_perm c fixed hperm).1 (h other hperm)
    rw [comparePairs_eq_iff (by simp [sortReported, hperm.length_eq])] at hpairs
    exact (comparePair_eq_iff hspan.symm).1 (hpairs i e b a he hother ha).symm
  · intro h other hperm
    rw [verify_eq_iff_of_perm c fixed hperm,
      comparePairs_eq_iff (by simp [sortReported, hperm.length_eq])]
    intro i e b a he hb ha
    have hspan := span_eq_of_perm hperm ha hb
    have hmem : b ∈ reported := by
      have := List.mem_of_getElem? hb
      exact hperm.mem_iff.1 ((sortBySpan_perm Reported.span other).mem_iff.1 this)
    exact ((comparePair_eq_iff hspan.symm).2 (h i e a b he ha hmem hspan)).symm

/-- Two markers under one character, one below the other. -/
def oneBelowTheOther : MarkedCase :=
  .multiple "one below the other" "x\n~\n^"
    [{ messageId := "a" }, { marker := '^', messageId := "b" }]

def twoErrorsOnX : FailingCase :=
  { name := "one below the other", code := "x", options := []
    errors := [⟨"a", none, ⟨1, 1, 1, 1⟩, none⟩, ⟨"b", none, ⟨1, 1, 1, 1⟩, none⟩]
    output := none, filename := none, only := false }

def reportedOnX (messageId : String) : Reported := { messageId, span := ⟨1, 1, 1, 1⟩ }

/-- A report that passes in one order and fails in the other. -/
theorem verify_order_shows :
    oneBelowTheOther.build = .ok twoErrorsOnX ∧
      [reportedOnX "b", reportedOnX "a"].Perm [reportedOnX "a", reportedOnX "b"] ∧
      (verify twoErrorsOnX [reportedOnX "a", reportedOnX "b"] none).isOk = true ∧
      (verify twoErrorsOnX [reportedOnX "b", reportedOnX "a"] none).isOk = false := by
  have hexpected : sortExpected twoErrorsOnX.errors = twoErrorsOnX.errors :=
    sortBySpan_of_pairwise Expectation.span (by decide)
  have hreported (a b : String) : sortReported [reportedOnX a, reportedOnX b] =
      [reportedOnX a, reportedOnX b] :=
    sortBySpan_of_pairwise Reported.span (by simp [reportedOnX, Span.before_refl])
  refine ⟨rfl, List.Perm.swap _ _ _, ?_, ?_⟩
  · rw [verify, compareErrors, hexpected, hreported]
    decide
  · rw [verify, compareErrors, hexpected, hreported]
    decide

end MarkLine
