import MarkLine.Proofs.Build
import MarkLine.Suite.Compiled
import Mathlib.Data.List.Forall2

/-!
# Compiled suites

Compiling a suite tries every case and keeps two lists in one pass, the cases that were built and
the failures. `mem_attempt_failures` and `pairwise_attempt_failures` say what the second list is:
one failure for each case that cannot be built, under the number of the case and in increasing
order. If it is empty the first list holds the built form of every case
(`attempt_eq_built_iff`). Both lists of the cases of two suites, one after the other, are those of
each, the failures of the second counted on from the first (`attempt_append`, `attempt_add`).
`compile_outcome` says what comes of a suite in all cases.
-/

namespace MarkLine

/-- Every item has a partner exactly if the list has a list of partners. -/
theorem exists_forall₂_iff {α β : Type} {R : α → β → Prop} {items : List α} :
    (∃ partners, List.Forall₂ R items partners) ↔ ∀ x ∈ items, ∃ y, R x y := by
  induction items with
  | nil => simp
  | cons x rest ih =>
    rw [List.forall_mem_cons, ← ih]
    simp only [List.forall₂_cons_left_iff]
    constructor
    · rintro ⟨_, y, partners, hy, hpartners, rfl⟩
      exact ⟨⟨y, hy⟩, partners, hpartners⟩
    · rintro ⟨⟨y, hy⟩, partners, hpartners⟩
      exact ⟨_, y, partners, hy, hpartners, rfl⟩

namespace Suite

section
variable {index : Nat} {c : MarkedCase} {cases : List MarkedCase} {built : List FailingCase}

/-! ## One case -/

theorem attempt_cons_ok {result : FailingCase} (h : c.build = .ok result) :
    attempt index (c :: cases) =
      (result :: (attempt (index + 1) cases).1, (attempt (index + 1) cases).2) := by
  simp [attempt, h]

theorem attempt_cons_error {fault : CaseFault} (h : c.build = .error fault) :
    attempt index (c :: cases) =
      ((attempt (index + 1) cases).1, ⟨index, fault⟩ :: (attempt (index + 1) cases).2) := by
  simp [attempt, h]

/-! ## All cases -/

/-- The failures are those of the cases that cannot be built, each under the number of its case. -/
theorem mem_attempt_failures {f : CaseFailure} :
    f ∈ (attempt index cases).2 ↔
      ∃ i c, cases[i]? = some c ∧ c.build = .error f.fault ∧ f.index = index + i := by
  induction cases generalizing index with
  | nil => simp [attempt]
  | cons first rest ih =>
    -- A case further down is one place further down.
    have hrest : (∃ i c, rest[i]? = some c ∧ c.build = .error f.fault ∧ f.index = index + 1 + i) ↔
        ∃ i c, (first :: rest)[i + 1]? = some c ∧ c.build = .error f.fault ∧
          f.index = index + (i + 1) := by
      simp [Nat.add_assoc, Nat.add_comm 1]
    cases hfirst : first.build with
    | ok result =>
      rw [attempt_cons_ok hfirst, ih, hrest]
      constructor
      · rintro ⟨i, h⟩
        exact ⟨i + 1, h⟩
      · rintro ⟨i, c, hi, hc, hindex⟩
        cases i with
        | zero =>
          obtain rfl : first = c := by simpa using hi
          rw [hfirst] at hc
          cases hc
        | succ i => exact ⟨i, c, hi, hc, hindex⟩
    | error fault =>
      rw [attempt_cons_error hfirst, List.mem_cons, ih, hrest]
      constructor
      · rintro (rfl | ⟨i, h⟩)
        · exact ⟨0, first, rfl, hfirst, rfl⟩
        · exact ⟨i + 1, h⟩
      · rintro ⟨i, c, hi, hc, hindex⟩
        cases i with
        | zero =>
          obtain rfl : first = c := by simpa using hi
          obtain rfl : fault = f.fault := Except.error.inj (hfirst.symm.trans hc)
          obtain rfl : f.index = index := by simpa using hindex
          exact .inl rfl
        | succ i => exact .inr ⟨i, c, hi, hc, hindex⟩

theorem pairwise_attempt_failures (index : Nat) (cases : List MarkedCase) :
    (attempt index cases).2.Pairwise fun f g => f.index < g.index := by
  induction cases generalizing index with
  | nil => exact .nil
  | cons first rest ih =>
    cases hfirst : first.build with
    | ok result =>
      rw [attempt_cons_ok hfirst]
      exact ih (index + 1)
    | error fault =>
      rw [attempt_cons_error hfirst]
      refine List.pairwise_cons.2 ⟨fun f hf => ?_, ih (index + 1)⟩
      obtain ⟨i, -, -, -, hindex⟩ := mem_attempt_failures.1 hf
      simp only
      omega

/-- There is no failure exactly if every case is built, and then nothing else was built. -/
theorem attempt_eq_built_iff (index : Nat) :
    attempt index cases = (built, []) ↔
      List.Forall₂ (fun c result => c.build = .ok result) cases built := by
  induction cases generalizing index built with
  | nil => simp [attempt, eq_comm]
  | cons first rest ih =>
    cases hfirst : first.build with
    | ok result =>
      rw [attempt_cons_ok hfirst]
      cases built with
      | nil => simp
      | cons b others =>
        rw [List.forall₂_cons, ← ih (index + 1), hfirst, Except.ok.injEq, Prod.mk.injEq,
          Prod.ext_iff, List.cons.injEq, and_assoc]
    | error fault =>
      rw [attempt_cons_error hfirst]
      constructor
      · intro h
        simp at h
      · rintro (_ | ⟨hbuilt, -⟩)
        rw [hfirst] at hbuilt
        cases hbuilt

end

section
variable {s : Suite}

theorem compile_eq_ok_iff {built : List FailingCase} :
    s.compile = .ok built ↔
      List.Forall₂ (fun c result => c.build = .ok result) s.cases built := by
  rw [← attempt_eq_built_iff 0]
  rcases h : attempt 0 s.cases with ⟨results, _ | ⟨first, rest⟩⟩ <;> simp [compile, h]

theorem compile_eq_error_iff {failures : List CaseFailure} :
    s.compile = .error failures ↔ failures ≠ [] ∧ (attempt 0 s.cases).2 = failures := by
  rcases h : attempt 0 s.cases with ⟨results, _ | ⟨first, rest⟩⟩
  · simp [compile, h, eq_comm]
  · simp only [compile, h, Except.error.injEq]
    exact ⟨fun heq => ⟨heq ▸ List.cons_ne_nil _ _, heq⟩, And.right⟩

end

end Suite

/-! ## One list of cases after another -/

/-- The same failure, `count` cases further down. -/
def CaseFailure.after (count : Nat) (f : CaseFailure) : CaseFailure :=
  { f with index := f.index + count }

namespace Suite

/-- Numbering the cases from further on moves the failures and nothing else. -/
theorem attempt_add (index count : Nat) (cases : List MarkedCase) :
    attempt (index + count) cases =
      ((attempt index cases).1, (attempt index cases).2.map (CaseFailure.after count)) := by
  induction cases generalizing index with
  | nil => rfl
  | cons first rest ih =>
    have hrest := ih (index + 1)
    rw [Nat.add_right_comm] at hrest
    cases hfirst : first.build with
    | ok result => rw [attempt_cons_ok hfirst, attempt_cons_ok hfirst, hrest]
    | error fault =>
      rw [attempt_cons_error hfirst, attempt_cons_error hfirst, hrest]
      rfl

/-- Both lists of an attempt are put together part by part. -/
theorem attempt_append (index : Nat) (cases others : List MarkedCase) :
    attempt index (cases ++ others) =
      ((attempt index cases).1 ++ (attempt (index + cases.length) others).1,
       (attempt index cases).2 ++ (attempt (index + cases.length) others).2) := by
  induction cases generalizing index with
  | nil => rfl
  | cons first rest ih =>
    have hrest := ih (index + 1)
    rw [Nat.add_right_comm, Nat.add_assoc] at hrest
    cases hfirst : first.build with
    | ok result =>
      rw [List.cons_append, attempt_cons_ok hfirst, attempt_cons_ok hfirst, hrest]
      rfl
    | error fault =>
      rw [List.cons_append, attempt_cons_error hfirst, attempt_cons_error hfirst, hrest]
      rfl

def failuresOf : Except (List CaseFailure) (List FailingCase) → List CaseFailure
  | .ok _ => []
  | .error failures => failures

/-- The outcome for `count` cases and others after them, from the outcomes for each. -/
def joinOutcomes (count : Nat) : Except (List CaseFailure) (List FailingCase) →
    Except (List CaseFailure) (List FailingCase) → Except (List CaseFailure) (List FailingCase)
  | .ok built, .ok others => .ok (built ++ others)
  | first, second => .error (failuresOf first ++ (failuresOf second).map (CaseFailure.after count))

theorem compile_append (rule : Option String) (s t : Suite) :
    compile { rule, cases := s.cases ++ t.cases } =
      joinOutcomes s.cases.length s.compile t.compile := by
  have hlower := attempt_add 0 s.cases.length t.cases
  have hwhole := attempt_append 0 s.cases t.cases
  rw [hlower] at hwhole
  rcases hs : attempt 0 s.cases with ⟨built, _ | ⟨first, rest⟩⟩ <;>
    rcases ht : attempt 0 t.cases with ⟨others, _ | ⟨second, more⟩⟩ <;>
    simp [compile, hwhole, hs, ht, joinOutcomes, failuresOf]

/-- **Exact outcome of compiling a suite.** It succeeds exactly if every case can be built, and then
gives the built cases in order. Otherwise it lists the failures, at least one, under increasing
indices and without any left out or added. Cases after others give the results of both, or the
failures of both, those of the second part counted on. -/
theorem compile_outcome (s : Suite) :
    ((∃ built, s.compile = .ok built) ↔ ∀ c ∈ s.cases, ∃ result, c.build = .ok result) ∧
    (∀ built, s.compile = .ok built →
      List.Forall₂ (fun c result => c.build = .ok result) s.cases built) ∧
    (∀ failures, s.compile = .error failures →
      failures ≠ [] ∧ failures.Pairwise (fun f g => f.index < g.index) ∧
        ∀ i fault, ⟨i, fault⟩ ∈ failures ↔ ∃ c, s.cases[i]? = some c ∧ c.build = .error fault) ∧
    ∀ (t : Suite) (rule : Option String), compile { rule, cases := s.cases ++ t.cases } =
      joinOutcomes s.cases.length s.compile t.compile := by
  refine ⟨?_, fun built => compile_eq_ok_iff.1, fun failures h => ?_,
    fun t rule => compile_append rule s t⟩
  · simp only [compile_eq_ok_iff, exists_forall₂_iff]
  · obtain ⟨hne, rfl⟩ := compile_eq_error_iff.1 h
    refine ⟨hne, pairwise_attempt_failures 0 s.cases, fun i fault => ?_⟩
    rw [mem_attempt_failures]
    simp

end Suite

end MarkLine
