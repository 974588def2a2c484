import MarkLine.Proofs.Build
import MarkLine.Proofs.MarkerSet
import Mathlib.Data.List.FinRange

/-!
# The order of messages

The messages of a case are listed in some order, and that order decides in which order markers are
handed to the scan, where the look-out for repeated markers meets them and which message is blamed
for a fault. It does not decide whether the case can be built: the same messages in another order
give the same case, with its errors in that order (`build_rearranged`).

A rearrangement is a permutation of places. Applied to the messages it leaves the set of markers as
it is, so the two scans are the same scan (`scan_congr`), and each message finds its region in it
wherever the message stands (`expectAll_eq_ok_iff`).
-/

namespace MarkLine

/-! ## Rearranged lists -/

section
variable {α β : Type} {n : Nat}

/-- The list with the item of place `σ i` at place `i`. -/
def rearrange (σ : Equiv.Perm (Fin n)) (items : List α) : List α :=
  (List.finRange n).filterMap fun i => items[(σ i : Nat)]?

theorem rearrange_map (σ : Equiv.Perm (Fin n)) (f : α → β) (items : List α) :
    rearrange σ (items.map f) = (rearrange σ items).map f := by
  simp [rearrange, List.map_filterMap]

variable {items : List α}

theorem rearrange_eq_map (σ : Equiv.Perm (Fin n)) (h : items.length = n) :
    rearrange σ items = (List.finRange n).map fun i => items.get (Fin.cast h.symm (σ i)) := by
  rw [← List.filterMap_eq_map, rearrange]
  congr 1
  funext i
  exact List.getElem?_eq_getElem (h.symm ▸ (σ i).isLt)

theorem length_rearrange (σ : Equiv.Perm (Fin n)) (h : items.length = n) :
    (rearrange σ items).length = n := by
  simp [rearrange_eq_map σ h]

/-- The item at a place is the one that stood where the permutation sends the place. -/
theorem getElem?_rearrange (σ : Equiv.Perm (Fin n)) (h : items.length = n) (i : Fin n) :
    (rearrange σ items)[(i : Nat)]? = items[(σ i : Nat)]? := by
  have hi : (σ i : Nat) < items.length := h.symm ▸ (σ i).isLt
  simp [rearrange_eq_map σ h, List.getElem?_eq_getElem hi]

/-- Every item stays, at one place or another. -/
theorem rearrange_perm (σ : Equiv.Perm (Fin n)) (h : items.length = n) :
    (rearrange σ items).Perm items := by
  have hperm := σ.map_finRange_perm.map fun i => items.get (Fin.cast h.symm i)
  rw [List.map_map] at hperm
  rw [rearrange_eq_map σ h]
  refine hperm.trans ?_
  subst h
  simp

/-- The inverse permutation puts everything back. -/
theorem rearrange_symm (σ : Equiv.Perm (Fin n)) (h : items.length = n) :
    rearrange σ.symm (rearrange σ items) = items := by
  have hlen := length_rearrange σ h
  refine List.ext_getElem? fun k => ?_
  by_cases hk : k < n
  · rw [getElem?_rearrange σ.symm hlen ⟨k, hk⟩, getElem?_rearrange σ h, Equiv.apply_symm_apply]
  · rw [List.getElem?_eq_none (by rw [length_rearrange σ.symm hlen]; omega),
      List.getElem?_eq_none (by omega)]

end

namespace MarkedCase

/-! ## The parts of a build -/

/-- Nothing is repeated exactly if all markers differ, from each other and from the earlier ones. -/
theorem firstRepeated_eq_none_iff {earlier markers : List Char} :
    firstRepeated earlier markers = none ↔ markers.Nodup ∧ ∀ c ∈ markers, c ∉ earlier := by
  induction markers generalizing earlier with
  | nil => simp [firstRepeated]
  | cons c rest ih =>
    by_cases hc : c ∈ earlier
    · simp [firstRepeated, hc]
    · simp only [firstRepeated, List.contains_iff_mem, hc, if_false, ih, List.nodup_cons,
        List.forall_mem_cons, not_false_eq_true, true_and, List.mem_append, List.mem_singleton,
        not_or]
      constructor
      · rintro ⟨hrest, hearlier⟩
        exact ⟨⟨fun hmem => (hearlier c hmem).2 rfl, hrest⟩, fun d hd => (hearlier d hd).1⟩
      · rintro ⟨⟨hmem, hrest⟩, hearlier⟩
        exact ⟨hrest, fun d hd => ⟨hearlier d hd, fun heq => hmem (heq ▸ hd)⟩⟩

theorem markers_eq_ok_iff {m : MarkedCase} {markers : List Char} :
    m.markers = .ok markers ↔ m.messages ≠ [] ∧ (m.messages.map (·.marker)).Nodup ∧
      markers = m.messages.map (·.marker) := by
  by_cases hnone : m.messages = []
  · simp [MarkedCase.markers, hnone]
  · cases hrepeated : firstRepeated [] (m.messages.map (·.marker)) with
    | none =>
      have hnodup := (firstRepeated_eq_none_iff.1 hrepeated).1
      simp [MarkedCase.markers, hnone, hrepeated, hnodup, eq_comm (a := markers)]
    | some c =>
      have hnodup : ¬ (m.messages.map (·.marker)).Nodup := by
        intro h
        rw [firstRepeated_eq_none_iff.2 ⟨h, by simp⟩] at hrepeated
        cases hrepeated
      simp [MarkedCase.markers, hnone, hrepeated, hnodup]

/-- All messages have an expectation exactly if each has, and then these are the expectations. -/
theorem expectAll_eq_ok_iff {found : Scan} {description : String} {messages : List Message}
    {errors : List Expectation} :
    expectAll found description messages = .ok errors ↔
      messages.map (expect found description) = errors.map .ok := by
  induction messages generalizing errors with
  | nil => cases errors <;> simp [expectAll]
  | cons first rest ih =>
    simp only [expectAll, bind_eq_ok_iff, pure, Except.pure, Except.ok.injEq, List.map_cons]
    constructor
    · rintro ⟨e, hfirst, others, hrest, rfl⟩
      rw [hfirst, ih.1 hrest, List.map_cons]
    · intro h
      cases errors with
      | nil => simp at h
      | cons e others =>
        obtain ⟨hfirst, hrest⟩ := List.cons.inj h
        exact ⟨e, hfirst, others, ih.2 hrest, rfl⟩

/-! ## Another order -/

def rearranged {n : Nat} (m : MarkedCase) (σ : Equiv.Perm (Fin n)) : MarkedCase :=
  { m with messages := rearrange σ m.messages }

variable {m : MarkedCase} {n : Nat}

theorem rearranged_symm (σ : Equiv.Perm (Fin n)) (h : m.messages.length = n) :
    (m.rearranged σ).rearranged σ.symm = m := by
  simp [rearranged, rearrange_symm σ h]

/-- A case that is built is built with its messages in another order too, and its errors follow. -/
theorem build_rearranged_eq_ok (σ : Equiv.Perm (Fin n)) (hn : m.messages.length = n)
    {c : FailingCase} (h : m.build = .ok c) :
    (m.rearranged σ).build = .ok { c with errors := rearrange σ c.errors } := by
  obtain ⟨markers, found, errors, output, hmarkers, hscan, herrors, houtput, rfl⟩ :=
    build_eq_ok_iff.1 h
  obtain ⟨hne, hnodup, rfl⟩ := markers_eq_ok_iff.1 hmarkers
  have hperm : (m.rearranged σ).messages.Perm m.messages := rearrange_perm σ hn
  have hmarkersPerm := hperm.map (·.marker)
  have hmarkers' : (m.rearranged σ).markers = .ok ((m.rearranged σ).messages.map (·.marker)) := by
    refine markers_eq_ok_iff.2 ⟨fun hnil => hne ?_, hmarkersPerm.nodup_iff.2 hnodup, rfl⟩
    rw [hnil] at hperm
    exact List.nil_perm.1 hperm
  have hscan' : scan m.source ((m.rearranged σ).messages.map (·.marker)) = .ok found := by
    have hblank := (scan_eq_ok_iff.1 hscan).1
    rw [← hscan]
    exact (scan_congr (fun _ => hmarkersPerm.mem_iff.symm) hblank m.source).symm
  have herrors' : expectAll found m.description (m.rearranged σ).messages =
      .ok (rearrange σ errors) := by
    have hall := expectAll_eq_ok_iff.1 herrors
    rw [expectAll_eq_ok_iff, rearranged, ← rearrange_map, hall, rearrange_map]
  exact build_eq_ok_iff.2 ⟨_, found, _, output, hmarkers', hscan', herrors', houtput, rfl⟩

/-- **The order of messages** decides neither whether a case is built nor what it is: the same
messages in another order give the same case with its errors in that order. -/
theorem build_rearranged (m : MarkedCase) (σ : Equiv.Perm (Fin m.messages.length)) :
    ((∃ c, (m.rearranged σ).build = .ok c) ↔ ∃ c, m.build = .ok c) ∧
      ∀ c, m.build = .ok c → c.errors.length = m.messages.length ∧
        (m.rearranged σ).build = .ok { c with errors := rearrange σ c.errors } := by
  refine ⟨⟨fun ⟨c, h⟩ => ?_, fun ⟨c, h⟩ => ?_⟩, fun c h => ?_⟩
  · have hback := build_rearranged_eq_ok σ.symm (length_rearrange σ rfl) h
    rw [rearranged_symm σ rfl] at hback
    exact ⟨_, hback⟩
  · exact ⟨_, build_rearranged_eq_ok σ rfl h⟩
  · obtain ⟨_, _, errors, _, _, _, herrors, _, rfl⟩ := build_eq_ok_iff.1 h
    exact ⟨(getElem?_of_expectAll herrors).1, build_rearranged_eq_ok σ rfl h⟩

/-- Three messages, the last of which is marked first. -/
def lastFirst : MarkedCase :=
  MarkedCase.multiple "last first" "abc\n#~\ndef\n ^"
    [{ messageId := "a" }, { marker := '^', messageId := "b" }, { marker := '#', messageId := "c" }]

def lastFirstBuilt : FailingCase :=
  { name := "last first", code := "abc\ndef", options := []
    errors := [⟨"a", none, ⟨1, 2, 1, 2⟩, none⟩, ⟨"b", none, ⟨2, 2, 2, 2⟩, none⟩,
      ⟨"c", none, ⟨1, 1, 1, 1⟩, none⟩]
    output := none, filename := none, only := false }

/-- The first and the last of three places exchanged. -/
def exchangeEnds : Equiv.Perm (Fin 3) := Equiv.swap 0 2

/-- With the first and the last message exchanged it is built to the same case, with the first and
the last error exchanged. -/
theorem lastFirst_exchanged :
    lastFirst.build = .ok lastFirstBuilt ∧
      (lastFirst.rearranged exchangeEnds).messages.map (·.messageId) =
        ["c", "b", "a"] ∧
      (lastFirst.rearranged exchangeEnds).build =
        .ok { lastFirstBuilt with errors := [⟨"c", none, ⟨1, 1, 1, 1⟩, none⟩,
          ⟨"b", none, ⟨2, 2, 2, 2⟩, none⟩, ⟨"a", none, ⟨1, 2, 1, 2⟩, none⟩] } := by
  have hbuild : lastFirst.build = .ok lastFirstBuilt := rfl
  exact ⟨hbuild, rfl, ((build_rearranged lastFirst exchangeEnds).2 _ hbuild).2⟩

end MarkedCase
end MarkLine
