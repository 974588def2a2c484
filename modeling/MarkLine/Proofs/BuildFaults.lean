import MarkLine.Proofs.Build

/-!
# What is wrong with a case

A case can have several defects at once; building it reports one. `Defect` names the seven ways in
which a case can be wrong, each a condition on the case as it is written (`Applies`), and `rank`
the order in which they count. Where a defect is one of a message, the first such message is blamed.

Each part of a build looks for the defects of some ranks in this order and for no others
(`Settles`, joined by `settles_bind`). So a build fails with the fault that counts first, and it
succeeds if none applies (`build_outcome`).
-/

namespace MarkLine

namespace MarkedCase

/-! ## Faults that apply -/

/-- The ways in which a case can be wrong. -/
inductive Defect where
  | noMessages
  /-- A message has the marker of an earlier one. -/
  | repeatedMarker
  /-- A marker is a blank. -/
  | blankMarker
  /-- The source starts with a marker line. -/
  | orphanInSource
  /-- A marker stands on no marker line, wherever else it may stand. -/
  | missingMarker
  /-- There are one output and a list of outputs. -/
  | conflictingOutputs
  /-- An output starts with a marker line of the default marker. -/
  | orphanInOutput

/-- The place of a defect in the order in which they count. -/
def Defect.rank : Defect → Nat
  | .noMessages => 0
  | .repeatedMarker => 1
  | .blankMarker => 2
  | .orphanInSource => 3
  | .missingMarker => 4
  | .conflictingOutputs => 5
  | .orphanInOutput => 6

theorem Defect.rank_injective : Function.Injective Defect.rank := by
  intro a b h
  cases a <;> cases b <;> first | rfl | cases h

theorem Defect.rank_lt (kind : Defect) : kind.rank < 7 := by
  cases kind <;> decide

/-- The fault that applies to a case for a defect of it. -/
def Applies (m : MarkedCase) : Defect → CaseFault → Prop
  | .noMessages, fault => m.messages = [] ∧ fault = .noMessages m.description
  | .repeatedMarker, fault => ∃ message, (∃ i, FirstAt (fun earlier message =>
      message.marker ∈ earlier.map (·.marker)) m.messages i message) ∧
        fault = .duplicateMarker message.marker m.description
  | .blankMarker, fault => ∃ message, (∃ i, FirstAt (fun _ message =>
      Text.isBlank message.marker = true) m.messages i message) ∧
        fault = .invalidMarker message.marker
  | .orphanInSource, fault => MarkerLine (m.messages.map (·.marker)) (firstLine m.source) ∧
      fault = .orphanMarkerLine 1
  | .missingMarker, fault => ∃ message, (∃ i, FirstAt (fun _ message => ∀ line ∈ linesOf m.source,
      MarkerLine (m.messages.map (·.marker)) line → message.marker ∉ line) m.messages i message) ∧
        fault = .markerNotFound message.marker m.description
  | .conflictingOutputs, fault => m.output ≠ none ∧ m.outputs ≠ [] ∧
      fault = .conflictingOutputs m.description
  | .orphanInOutput, fault => (∃ text ∈ m.output.toList ++ m.outputs,
      MarkerLine [defaultMarker] (firstLine text)) ∧ fault = .orphanMarkerLine 1

/-- At most one fault applies for a defect. -/
theorem applies_unique (m : MarkedCase) : ∀ (kind : Defect) (fault other : CaseFault),
    Applies m kind fault → Applies m kind other → fault = other
  | .noMessages, _, _, ⟨_, h⟩, ⟨_, h'⟩ => h.trans h'.symm
  | .repeatedMarker, _, _, ⟨_, ⟨_, hfirst⟩, h⟩, ⟨_, ⟨_, hfirst'⟩, h'⟩ => by
    rw [h, h', firstAt_unique hfirst hfirst']
  | .blankMarker, _, _, ⟨_, ⟨_, hfirst⟩, h⟩, ⟨_, ⟨_, hfirst'⟩, h'⟩ => by
    rw [h, h', firstAt_unique hfirst hfirst']
  | .orphanInSource, _, _, ⟨_, h⟩, ⟨_, h'⟩ => h.trans h'.symm
  | .missingMarker, _, _, ⟨_, ⟨_, hfirst⟩, h⟩, ⟨_, ⟨_, hfirst'⟩, h'⟩ => by
    rw [h, h', firstAt_unique hfirst hfirst']
  | .conflictingOutputs, _, _, ⟨_, _, h⟩, ⟨_, _, h'⟩ => h.trans h'.symm
  | .orphanInOutput, _, _, ⟨_, h⟩, ⟨_, h'⟩ => h.trans h'.symm

variable {m : MarkedCase}

/-- An outcome settles the ranks from `lo` up to `hi`: its fault is the one that counts first among
them, and success means that none applies. -/
def Settles (m : MarkedCase) (lo hi : Nat) {α : Type} : Except CaseFault α → Prop
  | .error fault => ∃ kind : Defect, lo ≤ kind.rank ∧ kind.rank < hi ∧ Applies m kind fault ∧
      ∀ sooner : Defect, lo ≤ sooner.rank → sooner.rank < kind.rank →
        ∀ other, ¬ Applies m sooner other
  | .ok _ => ∀ kind : Defect, lo ≤ kind.rank → kind.rank < hi → ∀ fault, ¬ Applies m kind fault

/-- An outcome with the faults of one defect settles its rank. -/
theorem settles_of_iff {α : Type} (kind : Defect) {x : Except CaseFault α}
    (h : ∀ fault, x = .error fault ↔ Applies m kind fault) :
    Settles m kind.rank (kind.rank + 1) x := by
  cases x with
  | error fault =>
    exact ⟨kind, Nat.le_refl _, Nat.lt_succ_self _, (h fault).1 rfl, by omega⟩
  | ok a =>
    intro other hle hlt fault happlies
    obtain rfl : other = kind := Defect.rank_injective (by omega)
    cases (h fault).2 happlies

/-- An outcome with the faults of two defects settles both ranks, if it looks at the first one
first. -/
theorem settles_of_iff_or {α : Type} (kind next : Defect) (hnext : next.rank = kind.rank + 1)
    {x : Except CaseFault α}
    (h : ∀ fault, x = .error fault ↔ Applies m kind fault ∨
      ((∀ other, ¬ Applies m kind other) ∧ Applies m next fault)) :
    Settles m kind.rank (kind.rank + 2) x := by
  cases x with
  | error fault =>
    rcases (h fault).1 rfl with happlies | ⟨hnone, happlies⟩
    · exact ⟨kind, Nat.le_refl _, by omega, happlies, by omega⟩
    · refine ⟨next, by omega, by omega, happlies, fun sooner hle hlt => ?_⟩
      obtain rfl : sooner = kind := Defect.rank_injective (by omega)
      exact hnone
  | ok a =>
    have hnone : ∀ fault, ¬ Applies m kind fault := fun fault happlies => by
      cases (h fault).2 (.inl happlies)
    intro other hle hlt fault happlies
    rcases Nat.eq_or_lt_of_le hle with heq | hgt
    · obtain rfl : kind = other := Defect.rank_injective heq
      exact hnone fault happlies
    · obtain rfl : other = next := Defect.rank_injective (by omega)
      cases (h fault).2 (.inr ⟨hnone, happlies⟩)

/-- Parts that settle neighbouring ranks settle them together. -/
theorem settles_bind {α β : Type} {lo mid hi : Nat} {x : Except CaseFault α}
    {f : α → Except CaseFault β} (hx : Settles m lo mid x) (hlo : lo ≤ mid) (hhi : mid ≤ hi)
    (hf : ∀ a, x = .ok a → Settles m mid hi (f a)) : Settles m lo hi (x >>= f) := by
  cases x with
  | error fault =>
    obtain ⟨kind, hle, hlt, happlies, hfirst⟩ := hx
    exact ⟨kind, hle, by omega, happlies, hfirst⟩
  | ok a =>
    have hrest := hf a rfl
    change Settles m lo hi (f a)
    cases hfa : f a with
    | error fault =>
      rw [hfa] at hrest
      obtain ⟨kind, hle, hlt, happlies, hfirst⟩ := hrest
      refine ⟨kind, by omega, hlt, happlies, fun sooner hs hlt' => ?_⟩
      rcases Nat.lt_or_ge sooner.rank mid with h | h
      · exact hx sooner hs h
      · exact hfirst sooner h hlt'
    | ok b =>
      rw [hfa] at hrest
      intro kind hle hlt
      rcases Nat.lt_or_ge kind.rank mid with h | h
      · exact hx kind hle h
      · exact hrest kind h hlt

/-! ## The parts of a build -/

/-- The look-out for repeated markers blames the first message that repeats one. -/
theorem firstRepeated_eq_some_iff {earlier : List Char} {messages : List Message} {c : Char} :
    firstRepeated earlier (messages.map (·.marker)) = some c ↔
      ∃ message, (∃ i, FirstAt (fun before message =>
        message.marker ∈ earlier ++ before.map (·.marker)) messages i message) ∧
          c = message.marker := by
  induction messages generalizing earlier with
  | nil => simp [firstRepeated, not_firstAt_nil]
  | cons first rest ih =>
    by_cases h : first.marker ∈ earlier
    · simp [firstRepeated, exists_firstAt_cons, h, eq_comm]
    · simp only [List.map_cons, firstRepeated, List.contains_iff_mem, h, if_false, ih,
        exists_firstAt_cons, List.map_nil, List.append_nil, false_and, false_or, not_false_eq_true,
        true_and, List.append_assoc, List.singleton_append]

/-- First whether there are messages, then whether a marker is repeated. -/
theorem settles_markers (m : MarkedCase) : Settles m 0 2 m.markers := by
  refine settles_of_iff_or .noMessages .repeatedMarker rfl fun fault => ?_
  by_cases hnone : m.messages = []
  · simp [markers, Applies, hnone, eq_comm (a := fault)]
  · have hfault : m.markers = .error fault ↔ ∃ c,
        firstRepeated [] (m.messages.map (·.marker)) = some c ∧
          fault = .duplicateMarker c m.description := by
      cases hrepeated : firstRepeated [] (m.messages.map (·.marker)) <;>
        simp [markers, hnone, hrepeated, eq_comm (a := fault)]
    rw [hfault]
    simp [Applies, hnone, firstRepeated_eq_some_iff, List.nil_append]

/-- First whether a marker is a blank, then whether the source starts with a marker line. -/
theorem settles_scan (m : MarkedCase) :
    Settles m 2 4 (scan m.source (m.messages.map (·.marker))) := by
  refine settles_of_iff_or .blankMarker .orphanInSource rfl fun fault => ?_
  cases hfind : m.messages.find? (fun message => Text.isBlank message.marker) with
  | some message =>
    have hblank : (m.messages.map (·.marker)).find? Text.isBlank = some message.marker := by
      rw [List.find?_map, Function.comp_def, hfind, Option.map_some]
    simp [scan, hblank, Applies, exists_firstAt_iff_find?, hfind, eq_comm (a := fault)]
  | none =>
    have hm : ∀ c ∈ m.messages.map (·.marker), Text.isBlank c = false := by
      simpa using hfind
    by_cases horphan : MarkerLine (m.messages.map (·.marker)) (firstLine m.source)
    · rw [scan_eq_orphan hm horphan]
      simp [Applies, exists_firstAt_iff_find?, hfind, horphan, eq_comm (a := fault)]
    · rw [scan_eq_ok hm horphan]
      simp [Applies, exists_firstAt_iff_find?, hfind, horphan]

/-- The first message without a region is blamed. -/
theorem expectAll_eq_error_iff {found : Scan} {description : String} {messages : List Message}
    {fault : CaseFault} :
    expectAll found description messages = .error fault ↔
      ∃ message, (∃ i, FirstAt (fun _ message => found.region message.marker = none)
        messages i message) ∧ fault = .markerNotFound message.marker description := by
  induction messages with
  | nil => simp [expectAll, not_firstAt_nil]
  | cons first rest ih =>
    cases hregion : found.region first.marker with
    | none =>
      simp [expectAll, expect, hregion, exists_firstAt_cons, bind, Except.bind,
        eq_comm (a := fault)]
    | some region =>
      have hrest : expectAll found description (first :: rest) = .error fault ↔
          expectAll found description rest = .error fault := by
        cases hall : expectAll found description rest <;>
          simp [expectAll, expect, hregion, hall, bind, Except.bind, pure, Except.pure]
      rw [hrest, ih]
      simp [exists_firstAt_cons, hregion]

theorem settles_expectAll {found : Scan}
    (hscan : scan m.source (m.messages.map (·.marker)) = .ok found) :
    Settles m 4 5 (expectAll found m.description m.messages) := by
  refine settles_of_iff .missingMarker fun fault => ?_
  rw [expectAll_eq_error_iff]
  -- A marker of the case has no region exactly if it stands on no marker line.
  refine exists_congr fun message => and_congr_left fun _ => exists_congr fun i =>
    firstAt_congr fun other hother => ?_
  rw [(reads_of_scan hscan).absent]
  exact or_iff_right fun h => h (List.mem_map.2 ⟨other, hother, rfl⟩)

/-- First whether the outputs conflict, then whether one of them starts with a marker line. -/
theorem settles_fixed (m : MarkedCase) : Settles m 5 7 m.fixed := by
  refine settles_of_iff_or .conflictingOutputs .orphanInOutput rfl fun fault => ?_
  have hall : stripAll m.outputs = .error fault ↔
      (∃ text ∈ m.outputs, MarkerLine [defaultMarker] (firstLine text)) ∧
        fault = .orphanMarkerLine 1 := by
    by_cases horphan : ∃ text ∈ m.outputs, MarkerLine [defaultMarker] (firstLine text) <;>
      simp [stripAll_eq, horphan, eq_comm (a := fault)]
  cases hone : m.output with
  | none =>
    cases hmany : m.outputs with
    | nil => simp [fixed, Applies, hone, hmany]
    | cons text rest =>
      rw [hmany] at hall
      simp [fixed, Applies, hone, hmany, map_eq_error_iff, hall]
  | some text =>
    cases hmany : m.outputs with
    | nil =>
      by_cases horphan : MarkerLine [defaultMarker] (firstLine text)
      · simp [fixed, Applies, hone, hmany, strip_eq_orphan horphan, horphan, Except.map,
          eq_comm (a := fault)]
      · simp [fixed, Applies, hone, hmany, strip_eq_ok horphan, horphan, Except.map]
    | cons next rest => simp [fixed, Applies, hone, hmany, eq_comm (a := fault)]

/-- A build looks for all defects in their order. -/
theorem settles_build (m : MarkedCase) : Settles m 0 7 m.build := by
  refine settles_bind (settles_markers m) (by omega) (by omega) fun markers hmarkers => ?_
  obtain rfl := markers_of_ok hmarkers
  refine settles_bind (settles_scan m) (by omega) (by omega) fun found hfound => ?_
  refine settles_bind (settles_expectAll hfound) (by omega) (by omega) fun errors _ => ?_
  refine settles_bind (settles_fixed m) (by omega) (by omega) fun output _ => ?_
  intro kind hle hlt
  omega

/-- **The outcome of a build.** It fails with the fault that counts first of those that apply to the
case, and it succeeds exactly if none does. -/
theorem build_outcome (m : MarkedCase) :
    (∀ fault, m.build = .error fault ↔ CountsFirst Defect.rank m.Applies fault) ∧
    ((∃ c, m.build = .ok c) ↔ ∀ kind fault, ¬ m.Applies kind fault) := by
  have hsettles := settles_build m
  cases hbuild : m.build with
  | error found =>
    rw [hbuild] at hsettles
    obtain ⟨kind, -, -, happlies, hfirst⟩ := hsettles
    have hcounts : CountsFirst Defect.rank m.Applies found :=
      ⟨kind, happlies, fun sooner hlt => hfirst sooner (Nat.zero_le _) hlt⟩
    refine ⟨fun fault => ⟨?_, fun h => ?_⟩, by simp, fun hnone => ?_⟩
    · rintro ⟨⟩
      exact hcounts
    · obtain rfl : found = fault :=
        countsFirst_unique Defect.rank_injective (applies_unique m) hcounts h
      rfl
    · exact absurd happlies (hnone kind found)
  | ok c =>
    rw [hbuild] at hsettles
    have hnone : ∀ kind fault, ¬ m.Applies kind fault := fun kind =>
      hsettles kind (Nat.zero_le _) kind.rank_lt
    refine ⟨fun fault => ⟨by simp, ?_⟩, fun _ => hnone, fun _ => ⟨c, rfl⟩⟩
    rintro ⟨kind, happlies, -⟩
    exact absurd happlies (hnone kind fault)

-- Two messages share a marker, the source starts with a marker line and the outputs conflict.
example : MarkedCase.build
    { description := "all wrong", source := "~", messages := [⟨'~', "a", none, none⟩,
        ⟨'^', "b", none, none⟩, ⟨'~', "c", none, none⟩], output := some "x", outputs := ["y"] } =
    .error (.duplicateMarker '~' "all wrong") := rfl

end MarkedCase
end MarkLine
