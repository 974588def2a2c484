import MarkLine.Verification

/-!
# Comparing pair by pair

The mismatches of two lists are those of their pairs (`mem_comparePairs`), each tagged with the
number of its pair. So the mismatches of one pair can be read back from the whole list
(`comparePairs_filter_index`), and two lists of diagnostics differ from the expectations in the same
way exactly if they do so at every pair (`comparePairs_eq_iff`). The errors and the fix are accepted
apart from each other (`verify_isOk_iff`).
-/

namespace MarkLine

/-- The pair that a mismatch is about, if it is about one. -/
def Mismatch.pair? : Mismatch → Option Nat
  | .span index _ _ | .messageId index _ _ | .data index _ _ => some index
  | .count _ _ | .output _ _ | .pass _ _ _ => none

theorem pair?_of_mem_comparePair {index : Nat} {e : Expectation} {r : Reported} {m : Mismatch}
    (h : m ∈ comparePair index e r) : m.pair? = some index := by
  unfold comparePair at h
  rcases List.mem_append.1 h with h | h
  · rcases List.mem_append.1 h with h | h
    · split at h <;> simp at h
      subst h; rfl
    · split at h <;> simp at h
      subst h; rfl
  · split at h
    · simp at h
    · split at h <;> simp at h
      subst h; rfl

/-- The mismatches of pairs numbered from `k` on are those of each pair. -/
theorem mem_comparePairs {m : Mismatch} {k : Nat} {es : List Expectation} {rs : List Reported} :
    m ∈ comparePairs k es rs ↔
      ∃ i e r, es[i]? = some e ∧ rs[i]? = some r ∧ m ∈ comparePair (k + i) e r := by
  fun_induction comparePairs k es rs with
  | case1 k e es r rs ih =>
    rw [List.mem_append, ih]
    constructor
    · rintro (hm | ⟨i, e', r', he, hr, hm⟩)
      · exact ⟨0, e, r, rfl, rfl, hm⟩
      · exact ⟨i + 1, e', r', he, hr, by rwa [← Nat.add_assoc, Nat.add_right_comm]⟩
    · rintro ⟨i, e', r', he, hr, hm⟩
      cases i with
      | zero =>
        obtain rfl : e = e' := by simpa using he
        obtain rfl : r = r' := by simpa using hr
        exact .inl hm
      | succ i => exact .inr ⟨i, e', r', he, hr, by rwa [Nat.add_right_comm, Nat.add_assoc]⟩
  | case2 es k rs hnone =>
    constructor
    · intro hm
      cases hm
    · rintro ⟨i, e, r, he, hr, -⟩
      cases es with
      | nil => simp at he
      | cons e' es =>
        cases rs with
        | nil => simp at hr
        | cons r' rs => exact (hnone e' es r' rs rfl rfl).elim

/-- Pairs numbered from `k` on have no mismatch below `k`. -/
theorem pair?_of_mem_comparePairs {m : Mismatch} {k : Nat} {es : List Expectation}
    {rs : List Reported} (h : m ∈ comparePairs k es rs) : ∃ i, m.pair? = some i ∧ k ≤ i := by
  obtain ⟨i, e, r, -, -, hm⟩ := mem_comparePairs.1 h
  exact ⟨k + i, pair?_of_mem_comparePair hm, Nat.le_add_right k i⟩

/-- The mismatches tagged with the number of a pair are those of the pair. -/
theorem comparePairs_filter_index {e : Expectation} {r : Reported} :
    ∀ {k i : Nat} {es : List Expectation} {rs : List Reported}, es[i]? = some e →
      rs[i]? = some r →
      (comparePairs k es rs).filter (fun m => m.pair? = some (k + i)) = comparePair (k + i) e r
  | k, 0, e' :: es, r' :: rs, he, hr => by
    obtain rfl : e' = e := by simpa using he
    obtain rfl : r' = r := by simpa using hr
    have hall : (comparePair k e' r').filter (fun m => m.pair? = some k) = comparePair k e' r' :=
      List.filter_eq_self.2 fun m hm => by simpa using pair?_of_mem_comparePair hm
    have hnone : (comparePairs (k + 1) es rs).filter (fun m => m.pair? = some k) = [] := by
      refine List.filter_eq_nil_iff.2 fun m hm => ?_
      obtain ⟨i, hi, hle⟩ := pair?_of_mem_comparePairs hm
      simp only [hi, Option.some.injEq, decide_eq_true_eq]
      omega
    rw [comparePairs, List.filter_append, Nat.add_zero, hall, hnone, List.append_nil]
  | k, i + 1, e' :: es, r' :: rs, he, hr => by
    have hfirst : (comparePair k e' r').filter (fun m => m.pair? = some (k + (i + 1))) = [] := by
      refine List.filter_eq_nil_iff.2 fun m hm => ?_
      simp only [pair?_of_mem_comparePair hm, Option.some.injEq, decide_eq_true_eq]
      omega
    have he' : es[i]? = some e := by simpa using he
    have hr' : rs[i]? = some r := by simpa using hr
    have hrest := comparePairs_filter_index (k := k + 1) he' hr'
    rw [Nat.add_right_comm] at hrest
    rw [comparePairs, List.filter_append, hfirst, List.nil_append]
    exact hrest
  | _, 0, [], _, he, _ => by simp at he
  | _, 0, _ :: _, [], _, hr => by simp at hr
  | _, _ + 1, [], _, he, _ => by simp at he
  | _, _ + 1, _ :: _, [], _, hr => by simp at hr

theorem comparePairs_congr :
    ∀ {k : Nat} {es : List Expectation} {rs others : List Reported}, rs.length = others.length →
      (∀ (i : Nat) e a b, es[i]? = some e → rs[i]? = some a → others[i]? = some b →
        comparePair (k + i) e a = comparePair (k + i) e b) →
      comparePairs k es rs = comparePairs k es others
  | k, e :: es, a :: rs, b :: others, hlen, h => by
    have hfirst := h 0 e a b rfl rfl rfl
    have hrest : comparePairs (k + 1) es rs = comparePairs (k + 1) es others := by
      refine comparePairs_congr (by simpa using hlen) fun i e a b he ha hb => ?_
      have := h (i + 1) e a b he ha hb
      rwa [← Nat.add_assoc, Nat.add_right_comm] at this
    rw [Nat.add_zero] at hfirst
    rw [comparePairs, comparePairs, hfirst, hrest]
  | _, [], _, _, _, _ => by simp [comparePairs]
  | _, _ :: _, [], [], _, _ => rfl
  | _, _ :: _, [], _ :: _, hlen, _ => by simp at hlen
  | _, _ :: _, _ :: _, [], hlen, _ => by simp at hlen

/-- **Two lists of diagnostics have the same mismatches** exactly if every two that stand at one
place have the same mismatches with the expectation there. -/
theorem comparePairs_eq_iff {k : Nat} {es : List Expectation} {rs others : List Reported}
    (hlen : rs.length = others.length) :
    comparePairs k es rs = comparePairs k es others ↔
      ∀ (i : Nat) e a b, es[i]? = some e → rs[i]? = some a → others[i]? = some b →
        comparePair (k + i) e a = comparePair (k + i) e b := by
  refine ⟨fun h i e a b he ha hb => ?_, comparePairs_congr hlen⟩
  rw [← comparePairs_filter_index (k := k) he ha, ← comparePairs_filter_index (k := k) he hb, h]

/-! ## Acceptance -/

theorem effectiveFix_eq_some_iff {code text : String} {fixed : Option String} :
    effectiveFix code fixed = some text ↔ fixed = some text ∧ text ≠ code := by
  simp [effectiveFix, Option.filter_eq_some_iff]

/-- A case is satisfied exactly if its errors are and its fix is. -/
theorem verify_isOk_iff {c : FailingCase} {reported : List Reported} {fixed : Option String} :
    (verify c reported fixed).isOk = true ↔
      compareErrors c.errors reported = [] ∧
        c.output.bind Fixed.finalText = effectiveFix c.code fixed := by
  simp [verify, Verification.isOk, compareOutput]

end MarkLine
