import MarkLine.Proofs.Paths
import Mathlib.Data.List.Lex

/-!
# The order of paths

Paths are compared part by part, and parts by their kind and their text. This is a strict total
order of parts, so it is one of lists of parts too. Paths are not lists of parts, for different
texts may have the same parts; but of paths with different parts a sorted list is strictly
increasing (`pairwise_sort`), and there is only one (`sort_eq_of_perm`).
-/

namespace MarkLine.Path

/-- The order of parts: by kind, and names by their texts. -/
inductive Component.Before : Component → Component → Prop
  | kind {a b : Component} (lt : a.rank < b.rank) : Before a b
  | name {a b : String} (lt : a < b) : Before (.name a) (.name b)

/-- One path comes before another: at the first part where they differ, or because it ends first. -/
def Before (a b : String) : Prop :=
  List.Lex Component.Before (components a) (components b)

namespace Component

theorem before_name_iff {a b : String} : (name a).Before (name b) ↔ a < b := by
  constructor
  · rintro (lt | lt)
    · exact absurd lt (Nat.lt_irrefl _)
    · exact lt
  · exact .name

theorem before_iff {a b : Component} : a.before b = true ↔ a.Before b := by
  unfold before
  split
  · rw [before_name_iff, decide_eq_true_eq]
  · next hnames =>
    rw [decide_eq_true_eq]
    constructor
    · exact .kind
    · rintro (lt | lt)
      · exact lt
      · exact absurd rfl (hnames _ _ rfl)

/-- Parts of one kind that are no names are the same part. -/
theorem eq_of_rank_eq {a b : Component} (h : a.rank = b.rank) :
    a = b ∨ ∃ s t, a = name s ∧ b = name t := by
  cases a <;> cases b <;> simp [rank] at h ⊢

instance : IsStrictTotalOrder Component Before where
  irrefl a h := by
    rcases h with lt | lt
    · exact Nat.lt_irrefl _ lt
    · exact String.lt_irrefl _ lt
  trans a b c hab hbc := by
    rcases hab with lt | lt <;> rcases hbc with lt' | lt'
    · exact .kind (lt.trans lt')
    · exact .kind lt
    · exact .kind lt'
    · exact .name (String.lt_trans lt lt')
  trichotomous a b hab hba := by
    rcases Nat.lt_trichotomy a.rank b.rank with lt | heq | lt
    · exact absurd (.kind lt) hab
    · obtain rfl | ⟨s, t, rfl, rfl⟩ := eq_of_rank_eq heq
      · rfl
      · rw [before_name_iff, String.not_lt] at hab hba
        rw [String.le_antisymm hba hab]
    · exact absurd (.kind lt) hba

end Component

instance : IsStrictTotalOrder (List Component) (List.Lex Component.Before) :=
  { isStrictWeakOrder_of_isOrderConnected with }

section
variable {a b : String} {paths others : List String}

theorem before_iff : before a b = true ↔ Before a b := by
  simp only [before, List.lex_eq_true_iff_lex, Component.before_iff, Before]

theorem not_before_self (path : String) : ¬ Before path path :=
  irrefl_of (List.Lex Component.Before) _

/-- Of two paths one comes before the other, or they have the same parts. -/
theorem before_eq_false_iff : before b a = false ↔ Before a b ∨ components a = components b := by
  rw [← Bool.not_eq_true, before_iff]
  constructor
  · intro hba
    rcases trichotomous_of (List.Lex Component.Before) (components a) (components b) with
      hab | heq | hba'
    · exact .inl hab
    · exact .inr heq
    · exact absurd hba' hba
  · rintro (hab | heq)
    · exact asymm_of (List.Lex Component.Before) hab
    · rw [Before, heq]
      exact irrefl_of (List.Lex Component.Before) _

theorem sort_perm (paths : List String) : (sort paths).Perm paths :=
  List.mergeSort_perm _ _

/-- Paths with different parts are sorted in strict order. -/
theorem pairwise_sort (h : paths.Pairwise fun a b => components a ≠ components b) :
    (sort paths).Pairwise Before := by
  have hsorted : (sort paths).Pairwise fun a b => (!before b a) = true := by
    apply List.pairwise_mergeSort
    · intro a b c hab hbc
      simp only [Bool.not_eq_true', before_eq_false_iff] at *
      rcases hab with hab | hab <;> rcases hbc with hbc | hbc
      · exact .inl (trans_of (List.Lex Component.Before) hab hbc)
      · rw [Before, ← hbc]
        exact .inl hab
      · rw [Before, hab]
        exact .inl hbc
      · exact .inr (hab.trans hbc)
    · intro a b
      simp only [Bool.or_eq_true, Bool.not_eq_true', before_eq_false_iff]
      rcases trichotomous_of (List.Lex Component.Before) (components a) (components b) with
        hab | heq | hba
      · exact .inl (.inl hab)
      · exact .inl (.inr heq)
      · exact .inr (.inl hba)
  have hne : (sort paths).Pairwise fun a b => components a ≠ components b :=
    (sort_perm paths).symm.pairwise h Ne.symm
  refine (hsorted.and hne).imp fun hab => ?_
  rw [Bool.not_eq_true', before_eq_false_iff] at hab
  exact hab.1.resolve_right hab.2

/-- Sorting leaves nothing of the order in which the paths were listed. -/
theorem sort_eq_of_perm (h : paths.Pairwise fun a b => components a ≠ components b)
    (hperm : others.Perm paths) : sort others = sort paths := by
  have hothers : others.Pairwise fun a b => components a ≠ components b :=
    hperm.symm.pairwise h Ne.symm
  refine List.Perm.eq_of_pairwise ?_ (pairwise_sort hothers) (pairwise_sort h)
    (((sort_perm others).trans hperm).trans (sort_perm paths).symm)
  intro a b _ _ hab hba
  exact absurd hba (asymm_of (List.Lex Component.Before) hab)

end

end MarkLine.Path
