import Mathlib.Data.List.Forall2
import Mathlib.Logic.Function.Basic
import Mathlib.Order.Basic

/-!
# Success and failure

Most of what is done here is a chain of steps that can fail. Where several things are wrong, one of
them is reported, and two orders decide which: of the items of a list the first with a defect is
blamed (`FirstAt`), and of the defects of one item the one whose kind counts first (`CountsFirst`).

Lists are gone through in the same way everywhere, item by item with its number and up to the first
that fails (`Numbered`), so what comes of a list is proved once.
-/

namespace MarkLine

/-! ## Steps -/

theorem bind_eq_ok_iff {ε α β : Type} {x : Except ε α} {f : α → Except ε β} {b : β} :
    x >>= f = .ok b ↔ ∃ a, x = .ok a ∧ f a = .ok b := by
  cases x with
  | error fault => simp [bind, Except.bind]
  | ok a => simp [bind, Except.bind]

theorem map_eq_ok_iff {ε α β : Type} {x : Except ε α} {f : α → β} {b : β} :
    x.map f = .ok b ↔ ∃ a, x = .ok a ∧ b = f a := by
  cases x with
  | error fault => simp [Except.map]
  | ok a => simp [Except.map, eq_comm]

theorem map_eq_error_iff {ε α β : Type} {x : Except ε α} {f : α → β} {fault : ε} :
    x.map f = .error fault ↔ x = .error fault := by
  cases x <;> simp [Except.map]

theorem mapError_eq_ok_iff {ε ε' α : Type} {x : Except ε α} {f : ε → ε'} {a : α} :
    x.mapError f = .ok a ↔ x = .ok a := by
  cases x <;> simp [Except.mapError]

/-! ## The first item with a property -/

/-- The first item of a list with a property, which may look at the items before it, and its index.
-/
structure FirstAt {α : Type} (p : List α → α → Prop) (items : List α) (i : Nat) (x : α) : Prop where
  item : items[i]? = some x
  holds : p (items.take i) x
  before : ∀ j < i, ∀ y, items[j]? = some y → ¬ p (items.take j) y

section
variable {α : Type} {p : List α → α → Prop} {items : List α} {i j : Nat} {a x y : α}

theorem firstAt_unique (hx : FirstAt p items i x) (hy : FirstAt p items j y) : x = y := by
  rcases Nat.lt_trichotomy i j with hlt | rfl | hlt
  · exact absurd hx.holds (hy.before i hlt x hx.item)
  · exact Option.some.inj (hx.item.symm.trans hy.item)
  · exact absurd hy.holds (hx.before j hlt y hy.item)

theorem not_firstAt_nil : ¬ FirstAt p [] i x := by
  rintro ⟨hitem, -, -⟩
  simp at hitem

theorem firstAt_cons_zero : FirstAt p (a :: items) 0 x ↔ p [] a ∧ x = a := by
  constructor
  · rintro ⟨hitem, hp, -⟩
    obtain rfl : a = x := by simpa using hitem
    exact ⟨hp, rfl⟩
  · rintro ⟨hp, rfl⟩
    exact ⟨rfl, hp, by omega⟩

theorem firstAt_cons_succ :
    FirstAt p (a :: items) (i + 1) x ↔
      ¬ p [] a ∧ FirstAt (fun before => p (a :: before)) items i x := by
  constructor
  · rintro ⟨hitem, hp, hbefore⟩
    refine ⟨hbefore 0 (by omega) a rfl, by simpa using hitem, hp, fun j hj y hy => ?_⟩
    exact hbefore (j + 1) (by omega) y (by simpa using hy)
  · rintro ⟨ha, hitem, hp, hbefore⟩
    refine ⟨by simpa using hitem, hp, fun j hj y hy => ?_⟩
    cases j with
    | zero =>
      obtain rfl : a = y := by simpa using hy
      exact ha
    | succ j => exact hbefore j (by omega) y (by simpa using hy)

/-- The first item has the property, or the first one is further on. -/
theorem exists_firstAt_cons :
    (∃ i, FirstAt p (a :: items) i x) ↔
      (p [] a ∧ x = a) ∨ (¬ p [] a ∧ ∃ i, FirstAt (fun before => p (a :: before)) items i x) := by
  rw [← Nat.or_exists_add_one, firstAt_cons_zero]
  simp only [firstAt_cons_succ, exists_and_left]

/-- A property of the item alone. -/
theorem exists_firstAt_iff_find? {q : α → Bool} :
    (∃ i, FirstAt (fun _ y => q y = true) items i x) ↔ items.find? q = some x := by
  induction items with
  | nil => simp [not_firstAt_nil]
  | cons a rest ih =>
    rw [exists_firstAt_cons, ih, List.find?_cons]
    cases hq : q a <;> simp [eq_comm]

theorem firstAt_congr {q r : α → Prop} (h : ∀ y ∈ items, q y ↔ r y) :
    FirstAt (fun _ => q) items i x ↔ FirstAt (fun _ => r) items i x := by
  have hget {j : Nat} {y : α} (hj : items[j]? = some y) : q y ↔ r y :=
    h y (List.mem_of_getElem? hj)
  constructor
  · rintro ⟨hitem, hq, hbefore⟩
    exact ⟨hitem, (hget hitem).1 hq, fun j hj y hy hr => hbefore j hj y hy ((hget hy).2 hr)⟩
  · rintro ⟨hitem, hr, hbefore⟩
    exact ⟨hitem, (hget hitem).2 hr, fun j hj y hy hq => hbefore j hj y hy ((hget hy).1 hq)⟩

end

/-! ## Numbered items -/

/-- `run` takes the items of a list one by one, each with its number, up to the first that fails. -/
structure Numbered {ε α β : Type} (f : Nat → α → Except ε β)
    (run : Nat → List α → Except ε (List β)) : Prop where
  nil : ∀ index, run index [] = .ok []
  cons : ∀ index x rest, run index (x :: rest) = do
    let first ← f index x
    let others ← run (index + 1) rest
    return first :: others

namespace Numbered

variable {ε α β : Type} {f : Nat → α → Except ε β} {run : Nat → List α → Except ε (List β)}
  {index : Nat} {items : List α}

theorem cons_eq_ok_iff (h : Numbered f run) {x : α} {results : List β} :
    run index (x :: items) = .ok results ↔
      ∃ first others, f index x = .ok first ∧ run (index + 1) items = .ok others ∧
        results = first :: others := by
  simp only [h.cons, bind_eq_ok_iff, pure, Except.pure, Except.ok.injEq]
  constructor
  · rintro ⟨first, hfirst, others, hothers, rfl⟩
    exact ⟨first, others, hfirst, hothers, rfl⟩
  · rintro ⟨first, others, hfirst, hothers, rfl⟩
    exact ⟨first, hfirst, others, hothers, rfl⟩

/-- All items succeed with the results listed. -/
theorem eq_ok_iff (h : Numbered f run) {gives : α → β → Prop}
    (hgives : ∀ index x b, f index x = .ok b ↔ gives x b) {results : List β} :
    run index items = .ok results ↔ List.Forall₂ gives items results := by
  induction items generalizing index results with
  | nil => simp [h.nil, eq_comm]
  | cons x rest ih =>
    rw [h.cons_eq_ok_iff, List.forall₂_cons_left_iff]
    constructor
    · rintro ⟨first, others, hfirst, hothers, rfl⟩
      exact ⟨first, others, (hgives _ _ _).1 hfirst, ih.1 hothers, rfl⟩
    · rintro ⟨first, others, hfirst, hothers, rfl⟩
      exact ⟨first, others, (hgives _ _ _).2 hfirst, ih.2 hothers, rfl⟩

/-- The failure is that of the first item that is not good. -/
theorem eq_error_iff (h : Numbered f run) {good : α → Prop}
    (hgood : ∀ index x, (∃ b, f index x = .ok b) ↔ good x) {fault : ε} :
    run index items = .error fault ↔
      ∃ i x, FirstAt (fun _ x => ¬ good x) items i x ∧ f (index + i) x = .error fault := by
  induction items generalizing index with
  | nil =>
    simp [h.nil, not_firstAt_nil]
  | cons x rest ih =>
    -- The first item fails, or it is good and the failure is further down.
    have hstep : (∃ i y, FirstAt (fun _ x => ¬ good x) (x :: rest) i y ∧
          f (index + i) y = .error fault) ↔
        (¬ good x ∧ f index x = .error fault) ∨ (good x ∧ run (index + 1) rest = .error fault) := by
      rw [ih]
      constructor
      · rintro ⟨i, y, hfirst, herror⟩
        cases i with
        | zero =>
          obtain ⟨hbad, rfl⟩ := firstAt_cons_zero.1 hfirst
          exact .inl ⟨hbad, herror⟩
        | succ i =>
          obtain ⟨hx, hrest⟩ := firstAt_cons_succ.1 hfirst
          rw [← Nat.add_assoc, Nat.add_right_comm] at herror
          exact .inr ⟨not_not.1 hx, i, y, hrest, herror⟩
      · rintro (⟨hbad, herror⟩ | ⟨hx, i, y, hrest, herror⟩)
        · exact ⟨0, x, firstAt_cons_zero.2 ⟨hbad, rfl⟩, herror⟩
        · rw [Nat.add_right_comm, Nat.add_assoc] at herror
          exact ⟨i + 1, y, firstAt_cons_succ.2 ⟨not_not.2 hx, hrest⟩, herror⟩
    rw [hstep, h.cons, ← hgood index]
    cases hfirst : f index x with
    | error other => simp [bind, Except.bind]
    | ok first => cases run (index + 1) rest <;> simp [bind, Except.bind, pure, Except.pure]

end Numbered

/-! ## The kind that counts first -/

/-- A fault that applies under one kind, while none applies under any kind of lower rank. -/
def CountsFirst {κ φ : Type} (rank : κ → Nat) (applies : κ → φ → Prop) (fault : φ) : Prop :=
  ∃ kind, applies kind fault ∧
    ∀ sooner, rank sooner < rank kind → ∀ other, ¬ applies sooner other

section
variable {κ φ : Type} {rank : κ → Nat} {applies : κ → φ → Prop} {fault other : φ}

theorem countsFirst_unique (hrank : Function.Injective rank)
    (hunique : ∀ kind f g, applies kind f → applies kind g → f = g)
    (hfault : CountsFirst rank applies fault) (hother : CountsFirst rank applies other) :
    fault = other := by
  obtain ⟨kind, happlies, hfirst⟩ := hfault
  obtain ⟨kind', happlies', hfirst'⟩ := hother
  rcases Nat.lt_trichotomy (rank kind) (rank kind') with hlt | heq | hlt
  · exact absurd happlies (hfirst' kind hlt fault)
  · obtain rfl := hrank heq
    exact hunique kind _ _ happlies happlies'
  · exact absurd happlies' (hfirst kind' hlt other)

/-- The faults of a kind count first if there are none of a kind before it and, where there are none
of the kind itself, none of a kind after it. -/
theorem countsFirst_iff (hrank : Function.Injective rank) {kind : κ}
    (hsooner : ∀ sooner, rank sooner < rank kind → ∀ other, ¬ applies sooner other)
    (hlater : ∀ later, rank kind < rank later → ∀ other, applies later other →
      ∃ own, applies kind own) :
    CountsFirst rank applies fault ↔ applies kind fault := by
  constructor
  · rintro ⟨first, happlies, hfirst⟩
    rcases Nat.lt_trichotomy (rank first) (rank kind) with hlt | heq | hlt
    · exact absurd happlies (hsooner first hlt fault)
    · obtain rfl := hrank heq
      exact happlies
    · obtain ⟨own, hown⟩ := hlater first hlt fault happlies
      exact absurd hown (hfirst kind hlt own)
  · exact fun happlies => ⟨kind, happlies, hsooner⟩

end

end MarkLine
